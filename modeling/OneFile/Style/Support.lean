import OneFile.Style.Declaration

/-!
# Conditions on support

A condition asks whether declarations and selectors are supported. What is asked for is kept as it
was written.

## Main definitions

* `OneFile.Style.Support`
* `OneFile.Style.Support.read`
* `OneFile.Style.Support.write`
-/

namespace OneFile.Style

open Reading

/-- The names of a property: with the marks of some vendors, and perhaps without any mark. -/
structure Names where
  bare : Text
  vendors : List Text
  unmarked : Bool
deriving Repr

/-- A condition on what is supported. -/
inductive Support where
  /-- A declaration of a property by one or more of its names. -/
  | declaration (names : Names) (value : Text)
  | selector (text : Text)
  /-- Text that no meaning is known for. -/
  | unknown (text : Text)
  | not (s : Support)
  /-- All of some conditions, or any of them. -/
  | combination (all : Bool) (ss : List Support)
deriving Repr

namespace Names

/-- The vendors, in the order that their names are written in. -/
def vendorOrder : List Text := ["webkit".toList, "moz".toList, "ms".toList, "o".toList]

/-- The name of a property, which has a mark that counts only if it is known. -/
def ofName (name : Text) : Names :=
  let folded := Property.fold name
  match folded with
  | '-' :: s =>
    if Property.knownNames.contains folded then
      ⟨(s.dropWhile (· != '-')).drop 1, [s.takeWhile (· != '-')], false⟩
    else ⟨folded, [], true⟩
  | _ => ⟨folded, [], true⟩

/-- The names of both of two lists of names of one property. -/
def merge (a b : Names) : Names :=
  ⟨a.bare, vendorOrder.filter fun v => a.vendors.contains v || b.vendors.contains v,
    a.unmarked || b.unmarked⟩

/-- The names, one by one. -/
def toList (n : Names) : List Text :=
  n.vendors.map (fun v => '-' :: (v ++ '-' :: n.bare)) ++ if n.unmarked then [n.bare] else []

end Names

namespace Support

/-! ### Reading -/

/-- Nodes as they were written, all of which something can be made of. -/
def sound (ns : List Node) : Option Text := if Node.hasBadList ns then none else Node.rawList ns

/-- The text from the next node on that does not only separate. -/
def text : Reading Text := do
  skipGaps
  (sound (← rest) : Option _)

/-- A declaration. -/
def ofDeclaration : Reading Support := do
  let name ← ident
  token .colon
  return .declaration (.ofName name) (← text)

/-- What is in parentheses or in a function, where `inner` is a condition in parentheses. -/
def group (inner : Reading Support) : Reading Support :=
  (do return .selector (← call "selector" do (sound (← rest) : Option _))) <|>
  within .paren inner <|> within .paren ofDeclaration <|>
  accept fun n =>
    match n with
    | .block .paren _ children _ | .block (.call _) _ children _ =>
      if Node.hasBadList children then none else some (unknown n.raw)
    | _ => none

/-- Conditions with another one. A declaration that is there already is not repeated; it is asked
for by more names. -/
def insert (s : Support) : List Support → List Support
  | [] => [s]
  | t :: ts =>
    match t, s with
    | declaration n v, declaration n' v' =>
      if n.bare = n'.bare ∧ v = v' then declaration (n.merge n') v :: ts else t :: insert s ts
    | _, _ => t :: insert s ts

/-- Conditions after the first one, each after the same word. -/
def further (inner : Reading Support) (joint : String) : Nat → List Support → Reading (List Support)
  | 0, found => return found
  | fuel + 1, found => do
    let next ← attempt do
      word joint
      group inner
    match next with
    | none => return found
    | some s => further inner joint fuel (insert s found)

/-- A condition, where `inner` is one in parentheses. -/
def condition (inner : Reading Support) : Reading Support := do
  if ← passes (word "not") then return .not (← group inner)
  let first ← group inner
  let fuel := (← get).length
  let after (joint : String) : Reading Support := do
    word joint
    group inner
  if let some s ← attempt (after "and") then
    return .combination true (← further inner "and" fuel (insert s [first]))
  if let some s ← attempt (after "or") then
    return .combination false (← further inner "or" fuel (insert s [first]))
  return first

/-- A condition in parentheses that are nested at most `depth` deep. -/
def nested : Nat → Reading Support
  | 0 => failure
  | depth + 1 => condition (nested depth)

/-- A condition. -/
def read : Reading Support := do condition (nested (Node.depthList (← get)))

/-! ### Writing -/

/-- Whether a condition needs parentheses in a combination, or outside of one. -/
def needsParens (within : Option Bool) : Support → Bool
  | not _ => true
  | combination all _ => some all != within
  | _ => false

mutual

/-- A condition. -/
def write : Support → Text
  | declaration names value =>
    let each := names.toList.map fun n => '(' :: (n ++ ':' :: ' ' :: (value ++ [')']))
    parenthesize (!names.vendors.isEmpty) (" or ".toList.intercalate each)
  | selector s => "selector(".toList ++ s ++ [')']
  | unknown s => s
  | not s => "not ".toList ++ parenthesize (s.needsParens none) s.write
  | combination all ss => writeAll all ss

/-- Conditions with a word between them. -/
def writeAll (all : Bool) : List Support → Text
  | [] => []
  | [s] => parenthesize (s.needsParens (some all)) s.write
  | s :: t :: ss =>
    parenthesize (s.needsParens (some all)) s.write
      ++ (if all then " and ".toList else " or ".toList) ++ writeAll all (t :: ss)

end

end Support

end OneFile.Style
