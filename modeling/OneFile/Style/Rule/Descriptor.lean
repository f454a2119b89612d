import OneFile.Style.Property.Writing
import OneFile.Style.Rule
import OneFile.Style.Rule.Items

/-!
# Declarations about things that are not elements

Fonts are described by declarations of their own. Those that do not follow their grammar are passed
over, unless their values make sense as pieces.

## Main definitions

* `OneFile.Style.Descriptor.font`
* `OneFile.Style.Descriptor.transition`
* `OneFile.Style.Descriptor.palette`
-/

namespace OneFile.Style.Descriptor

open Reading

/-! ### Ranges of characters -/

/-- A number in hexadecimal digits. -/
def hexNumber? (ds : Text) : Option Nat := do
  guard (ds ≠ [] ∧ ds.length ≤ 6)
  let values ← ds.mapM hexDigit?
  return values.foldl (fun n d => 16 * n + d) 0

/-- A range of characters, from its text. Question marks stand for any digits. -/
def rangeOf? (s : Text) : Option (Nat × Nat) := do
  let ds ← match s with
    | 'u' :: '+' :: ds | 'U' :: '+' :: ds => some ds
    | _ => none
  let first := ds.takeWhile fun c => c ≠ '-' ∧ c ≠ '?'
  match ds.drop first.length with
  | [] =>
    let n ← hexNumber? first
    guard (n ≤ 0x10FFFF)
    return (n, n)
  | '-' :: last =>
    let low ← hexNumber? first
    let high ← hexNumber? last
    guard (low ≤ high ∧ high ≤ 0x10FFFF)
    return (low, high)
  | marks =>
    guard (marks.all (· = '?') ∧ first.length + marks.length ≤ 6)
    let start ← if first.isEmpty then some 0 else hexNumber? first
    let size := Nat.pow 16 marks.length
    guard (start * size + (size - 1) ≤ 0x10FFFF)
    return (start * size, start * size + (size - 1))

/-- The number of question marks that a range can be written with. -/
def marks (low high : Nat) : Nat :=
  let differs (k : Nat) : Bool := low / Nat.pow 16 k != high / Nat.pow 16 k
  let shift := ((List.range 6).filter differs).length
  if low % Nat.pow 16 shift = 0 ∧ high % Nat.pow 16 shift = Nat.pow 16 shift - 1 then shift else 0

/-- A number in upper-case hexadecimal digits. -/
def writeHex (n : Nat) : Text := Text.upper (Nat.toDigits 16 n)

/-- A range of characters. -/
def writeRange (low high : Nat) : Text :=
  let count := marks low high
  'U' :: '+' ::
    (if low = high then writeHex low
    else if 0 < count then
      let start := low / Nat.pow 16 count
      (if start = 0 then [] else writeHex start) ++ List.replicate count '?'
    else writeHex low ++ '-' :: writeHex high)

/-- A range of characters. -/
def range : Reading Term := do
  skipGaps
  let ns ← rest
  let s := Node.rawList (ns.reverse.dropWhile Node.isGap).reverse
  let some (low, high) := rangeOf? s | failure
  return .word (writeRange low high)

/-! ### Fonts -/

/-- Where a font comes from: an address, and what it has to be able to do. -/
def remote : Reading (List Term) := do
  let url ← Term.address
  let format ← attempt (call "format" (string <|> ident))
  let features ← attempt (call "tech" (commaSeparated (Term.word <$> keyword)))
  return url :: (format.map fun f => .call "format".toList [[.string f]]).toList
    ++ (features.map fun fs => .call "tech".toList (fs.map fun f => [f])).toList

/-- Where a font comes from. -/
def source : Reading (List Term) :=
  (do return [.call "local".toList [[← call "local" Property.family]]]) <|> remote

/-- How a font leans, perhaps between two angles. -/
def slope : Reading (List Term) := do
  match String.ofList (← keyword) with
  | "normal" => return [.ofWord "normal"]
  | "italic" => return [.ofWord "italic"]
  | "oblique" =>
    match ← attempt (Value.pairTerms Term.angle) with
    | none => return [.ofWord "oblique"]
    | some [t] =>
      return if t.same (.amount ⟨14, .angle "deg".toList⟩) then [.ofWord "oblique"]
        else [.ofWord "oblique", t]
    | some ts => return .ofWord "oblique" :: ts
  | _ => failure

/-- The grammar of a value in the description of a font. -/
def fontGrammar? (name : Text) : Option Value.Grammar :=
  match String.ofList name with
  | "src" => some (commaSeparated source)
  | "font-family" => some (Value.single Property.family)
  | "font-weight" => some (Value.pair Property.fontWeight)
  | "font-style" => some do return [← slope]
  | "font-stretch" => some (Value.pair Property.fontStretch)
  | "unicode-range" => some (Value.listOf range)
  | _ => none

/-- A declaration. A value that starts as its grammar says has to follow it to the end. -/
def ofGrammar (grammar? : Text → Option Value.Grammar) : Reading Declaration := do
  let name ← ident
  token .colon
  let lower := Text.lower name
  match grammar? lower with
  | some g =>
    if let some items ← attempt g then return ⟨lower, .items items, false⟩
    return ⟨name, .pieces (← pieces), false⟩
  | none => return ⟨name, .pieces (← pieces), false⟩
where
  /-- The pieces of a value. -/
  pieces : Reading (List Piece) := do
    let ns ← modifyGet fun ns => ns.span fun n => !(n matches .leaf (.delim '!') _)
    (Piece.ofNodes ns : Option _)

/-- The declarations that describe a font. -/
def font (ns : List Node) : List Declaration := Item.lenient (ofGrammar fontGrammar?) ns

/-! ### Transitions between pages -/

/-- The grammar of a value in the description of transitions. -/
def transitionGrammar? (name : Text) : Option Value.Grammar :=
  match String.ofList name with
  | "navigation" => some (Value.single (Term.oneWord ["none", "auto"]))
  | "types" => some do
    if ← passes (word "none") then return [[.ofWord "none"]]
    let ts ← many Term.customName
    guard !ts.isEmpty
    return [ts]
  | _ => none

/-- The declarations that describe transitions between pages. -/
def transition (ns : List Node) : List Declaration := Item.lenient (ofGrammar transitionGrammar?) ns

/-! ### Palettes -/

/-- The grammar of a value in the description of a palette. -/
def paletteGrammar? (name : Text) : Option Value.Grammar :=
  match String.ofList name with
  | "font-family" => some (Value.single Property.family)
  | "base-palette" => some (Value.single (Term.oneWord ["light", "dark"] <|> Term.integer))
  | "override-colors" => some (Value.list do return [← Term.integer, ← Term.anyColor])
  | _ => none

/-- The declarations that describe a palette. -/
def palette (ns : List Node) : List Declaration := Item.lenient (ofGrammar paletteGrammar?) ns

end OneFile.Style.Descriptor
