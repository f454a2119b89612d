import OneFile.Style.Property.Box

/-!
# Properties of flexible boxes

## Main definitions

* `OneFile.Style.Property.flow`
-/

namespace OneFile.Style.Property

open Reading Value

/-! ### Flexible boxes -/

/-- How a box grows and shrinks, and the size that it starts from. -/
def flexTerms : Reading (List Term) := do
  if ← passes (word "none") then return [.ofWord "none"]
  let growth : Reading (List Term) := do
    let grow ← Term.anyNumber
    return grow :: (← attempt Term.anyNumber).toList
  let found ← anyOrder [growth, List.singleton <$> Term.lengthPercentageOrAuto]
  match found with
  | [numbers, basis] =>
    let one : Term := .number 1
    let grow := (numbers.bind List.head?).getD one
    let shrink := ((numbers.getD []).drop 1).head?.getD one
    let basis := (basis.bind List.head?).getD (.percentage 0)
    if grow.isZero && shrink.isZero && basis.isWord "auto" then return [.ofWord "none"]
    let noPercentage := basis.isZero && basis.same (.percentage 0)
    let noLength := basis.isZero && !noPercentage
    let shrinks := !shrink.same one
    let writesNumbers := !grow.same one || shrinks || basis.isZero
    return (if writesNumbers then [grow] else [])
      ++ (if writesNumbers && (shrinks || noLength) then [shrink] else [])
      ++ (if noPercentage then [] else [basis])
  | _ => failure

/-- The names of directions of a flexible box. -/
def directions : List String := ["row", "row-reverse", "column", "column-reverse"]

/-- The names of ways to break the lines of a flexible box. -/
def wraps : List String := ["nowrap", "wrap", "wrap-reverse"]

/-- The direction of a flexible box and how its lines are broken. -/
def flexFlow : Grammar := do
  let found ← anyOrder [Term.oneWord directions, Term.oneWord wraps]
  guard (found.any Option.isSome)
  match unlessDefault found [Term.isWord "row", Term.isWord "nowrap"] with
  | [] => return [[.ofWord "row"]]
  | ts => return [ts]

/-! ### Alignment -/

/-- The names of places of an item. -/
def selfPositions : List String :=
  ["center", "start", "end", "self-start", "self-end", "flex-start", "flex-end"]

/-- The names of places of the content. -/
def contentPositions : List String := ["center", "start", "end", "flex-start", "flex-end"]

/-- The names of ways to share space out. -/
def distributions : List String := ["space-between", "space-around", "space-evenly", "stretch"]

/-- A place, which may be said to hold even if something overflows. -/
def overflowing (places : List String) : Reading (List Term) := do
  let rule ← attempt (Term.oneWord ["safe", "unsafe"])
  return rule.toList ++ [← Term.oneWord places]

/-- The first or the last line of text. The first one is not said to be so. -/
def baseline : Reading (List Term) := do
  match ← attempt (oneOf ["first", "last"]) with
  | none => word "baseline"; return [.ofWord "baseline"]
  | some which =>
    word "baseline"
    return if which = "last".toList then [.ofWord "last", .ofWord "baseline"]
      else [.ofWord "baseline"]

/-- One of the given names. -/
def among (names : List String) : Reading (List Term) := List.singleton <$> Term.oneWord names

/-- A place as the only item of a value. -/
def item (r : Reading (List Term)) : Grammar := do return [← r]

/-- How lines share the space across them. -/
def alignContent : Reading (List Term) :=
  among ("normal" :: distributions) <|> baseline <|> overflowing contentPositions

/-- How items share the space along their line. -/
def justifyContent : Reading (List Term) :=
  among ("normal" :: distributions) <|> overflowing (contentPositions ++ ["left", "right"])

/-- Where an item stands across its line. -/
def alignSelf : Reading (List Term) :=
  among ["auto", "normal", "stretch"] <|> baseline <|> overflowing selfPositions

/-- Where an item stands along its line. -/
def justifySelf : Reading (List Term) :=
  among ["auto", "normal", "stretch"] <|> baseline
    <|> overflowing (selfPositions ++ ["left", "right"])

/-- Where items stand across their line. -/
def alignItems : Reading (List Term) :=
  among ["normal", "stretch"] <|> baseline <|> overflowing selfPositions

/-- The places of items, which may be those of the rule that they are in. -/
def justifyItems : Reading (List Term) :=
  among ["normal", "stretch"] <|> baseline
    <|> overflowing (selfPositions ++ ["left", "right"])

/-- A place across the lines and one along them, of which the second one is written only if it is
not the same. -/
def placePair (down across : Reading (List Term)) : Grammar := do
  let a ← down
  match ← attempt across with
  | none => return [a]
  | some b => return [if Term.writeTerms true a = Term.writeTerms true b then a else a ++ b]

/-- The space between items. -/
def gap : Reading Term := Term.oneWord ["normal"] <|> Term.lengthPercentage

/-! ### The list -/

/-- Properties of flexible boxes, and of the items of grids. -/
def flow : List Property := [
  ⟨"flex-direction", ["webkit", "ms"], Value.single (Term.oneWord directions)⟩,
  ⟨"flex-wrap", ["webkit", "ms"], Value.single (Term.oneWord wraps)⟩,
  ⟨"flex-flow", ["webkit", "ms"], flexFlow⟩,
  ⟨"flex-grow", ["webkit"], Value.single Term.anyNumber⟩,
  ⟨"flex-shrink", ["webkit"], Value.single Term.anyNumber⟩,
  ⟨"flex-basis", ["webkit"], Value.single Term.lengthPercentageOrAuto⟩,
  ⟨"flex", ["webkit", "ms"], item flexTerms⟩,
  ⟨"order", ["webkit"], Value.single Term.integer⟩,
  ⟨"align-content", ["webkit"], item alignContent⟩,
  ⟨"justify-content", ["webkit"], item justifyContent⟩,
  ⟨"place-content", [], placePair alignContent justifyContent⟩,
  ⟨"align-self", ["webkit"], item alignSelf⟩,
  ⟨"justify-self", [], item justifySelf⟩,
  ⟨"place-self", [], placePair alignSelf justifySelf⟩,
  ⟨"align-items", ["webkit"], item alignItems⟩,
  ⟨"justify-items", [], item justifyItems⟩,
  ⟨"place-items", [], placePair alignItems justifyItems⟩,
  ⟨"row-gap", [], Value.single gap⟩,
  ⟨"column-gap", [], Value.single gap⟩,
  ⟨"gap", [], pair gap⟩]

end OneFile.Style.Property
