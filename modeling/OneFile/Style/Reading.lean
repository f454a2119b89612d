import OneFile.Style.Keyword
import OneFile.Style.Tree

/-!
# Reading nodes

What is read from a style sheet is read from a list of nodes, from the left. A reading that fails
has read nothing, so another one can be tried.

## Main definitions

* `OneFile.Style.Reading` — what reads something from the start of a list of nodes.
* `OneFile.Style.Reading.all` — a reading that takes the whole list.
* `OneFile.Style.Reading.commaSeparated`
-/

namespace OneFile.Style

/-- What reads something from the start of a list of nodes. -/
abbrev Reading (α : Type) : Type := StateT (List Node) Option α

namespace Reading

variable {α : Type}

/-! ### Tokens -/

/-- The next node that does not only separate. -/
def node : Reading Node := fun ns =>
  match Node.skipGaps ns with
  | n :: rest => some (n, rest)
  | [] => none

/-- The next node, unless it is a comment. -/
def adjacent : Reading Node := fun ns =>
  match ns.dropWhile fun n => n matches .leaf .comment _ with
  | n :: rest => some (n, rest)
  | [] => none

/-- What `f` makes of the next node. -/
def accept (f : Node → Option α) : Reading α := do
  let n ← node
  (f n : Option α)

/-- A given token. -/
def token (t : Token) : Reading Unit := accept fun n =>
  match n with
  | .leaf t' _ => if t' = t then some () else none
  | _ => none

/-- A name. -/
def ident : Reading Text := accept fun n =>
  match n with
  | .leaf (.ident name) _ => some name
  | _ => none

/-- A name in lower case. -/
def keyword : Reading Text := return Text.lower (← ident)

/-- A given name, in any case. -/
def word (name : String) : Reading Unit := do
  guard ((← keyword) = name.toList)

/-- One of the given names, in lower case. -/
def oneOf (names : List String) : Reading Text := do
  (Keyword.fold? names (← ident) : Option _)

/-- A name that is up to the author: any but those that are values of all properties. -/
def authorName : Reading Text := do
  let name ← ident
  guard !(Keyword.isAmong Keyword.universal name)
  return name

/-- A quoted string. -/
def string : Reading Text := accept fun n =>
  match n with
  | .leaf (.string content) _ => some content
  | _ => none

/-- A character. -/
def delim (c : Char) : Reading Unit := token (.delim c)

/-- A comma. -/
def comma : Reading Unit := token .comma

/-- Whether nothing is left. -/
def atEnd : Reading Bool := return (Node.skipGaps (← get)).isEmpty

/-- Passes over blanks and comments. -/
def skipGaps : Reading Unit := modify Node.skipGaps

/-! ### Larger readings -/

/-- A reading that may fail. -/
def attempt (r : Reading α) : Reading (Option α) := (some <$> r) <|> pure none

/-- Whether a reading succeeds; it has read nothing if not. -/
def passes (r : Reading Unit) : Reading Bool := return (← attempt r).isSome

/-- What the reading makes of the whole list. -/
def all (r : Reading α) (ns : List Node) : Option α :=
  match r ns with
  | some (a, rest) => if (Node.skipGaps rest).isEmpty then some a else none
  | none => none

/-- What is between brackets, read as a whole. -/
def within (o : Opening) (r : Reading α) : Reading α := accept fun n =>
  match n with
  | .block o' _ children _ => if o' = o then r.all children else none
  | _ => none

/-- The arguments of the given function, whose name may be in any case. -/
def call (name : String) (r : Reading α) : Reading α := accept fun n =>
  match n with
  | .block (.call f) _ children _ => if Text.lower f = name.toList then r.all children else none
  | _ => none

/-- A list of nodes without the first ones up to a comma, and those. -/
def splitAtCommas : List Node → List (List Node)
  | [] => [[]]
  | n :: ns =>
    match splitAtCommas ns with
    | [] => [[n]]
    | part :: parts =>
      if n matches .leaf .comma _ then [] :: part :: parts else (n :: part) :: parts

/-- Items with commas between them, up to the end. -/
def commaSeparated (r : Reading α) : Reading (List α) := fun ns =>
  ((splitAtCommas ns).mapM r.all).map fun items => (items, [])

/-- As many items as there are, at most `fuel`. -/
def manyWithin (r : Reading α) : Nat → Reading (List α)
  | 0 => return []
  | fuel + 1 => do
    match ← attempt r with
    | none => return []
    | some a => return a :: (← manyWithin r fuel)

/-- As many items as there are. An item takes at least one node. -/
def many (r : Reading α) : Reading (List α) := do manyWithin r (← get).length

/-- All that is left. -/
def rest : Reading (List Node) := modifyGet fun ns => (ns, [])

end Reading

end OneFile.Style
