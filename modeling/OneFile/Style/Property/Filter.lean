import OneFile.Style.Property.Border

/-!
# Filters

## Main definitions

* `OneFile.Style.Property.filters`
-/

namespace OneFile.Style.Property

open Reading Value

/-- A function of one argument, which is left out if `isUsual` holds for it. -/
def unary (name : String) (r : Reading Term) (isUsual : Term → Bool) : Reading Term := do
  let t ← call name (attempt r)
  return .call name.toList ((t.filter fun t => !isUsual t).toList.map List.singleton)

/-- Whether a term stands for all there is. -/
def isFull (t : Term) : Bool := t.same (.number 1) || t.same (.percentage 1)

/-- The shadow of a shape. -/
def dropShadow : Reading Term := do
  let ts ← call "drop-shadow" do
    let found ← anyOrder [shadowLengths 1, List.singleton <$> Term.anyColor]
    match found with
    | [some lengths, color] =>
      return lengths.take 2 ++ trimZeros (lengths.drop 2)
        ++ (color.getD []).filter fun t => !isCurrentColor t
    | _ => failure
  return .call "drop-shadow".toList [ts]

/-- A filter. -/
def filter : Reading Term :=
  let amounts := ["brightness", "contrast", "grayscale", "invert", "opacity", "saturate", "sepia"]
  Term.address
    <|> unary "blur" Term.length Term.isZero
    <|> unary "hue-rotate" Term.angleOrZero Term.isZero
    <|> dropShadow
    <|> amounts.foldr (fun f others => unary f Term.numberOrPercentage isFull <|> others) failure

/-- Filters one after the other. -/
def filterList : Grammar := do
  if ← passes (word "none") then return [[.ofWord "none"]]
  let ts ← many filter
  guard !ts.isEmpty
  return [ts]

/-- Properties of filters. -/
def filters : List Property :=
  [⟨"filter", ["webkit"], filterList⟩, ⟨"backdrop-filter", ["webkit"], filterList⟩]

end OneFile.Style.Property
