import OneFile.Style.Property.Box

/-!
# Properties of borders

## Main definitions

* `OneFile.Style.Property.border`
-/

namespace OneFile.Style.Property

open Reading Value

/-! ### Lines -/

/-- The width of a line. -/
def lineWidth : Reading Term := Term.length <|> Term.oneWord ["thin", "medium", "thick"]

/-- The styles of a line. -/
def lineStyles : List String := [
  "none", "hidden", "inset", "groove", "outset", "ridge", "dotted", "dashed", "solid", "double"]

/-- The style of a line. -/
def lineStyle : Reading Term := Term.oneWord lineStyles

/-- The style of an outline. -/
def outlineStyle : Reading Term := Term.oneWord ("auto" :: lineStyles)

/-- Whether a term is the color of the text. -/
def isCurrentColor : Term → Bool
  | .color .current => true
  | _ => false

/-- A line by its width, style and color, in any order; what is usual is not written. -/
def lineTerms (style : Reading Term) : Reading (List Term) := do
  let found ← anyOrder [lineWidth, style, Term.anyColor]
  guard (found.any Option.isSome)
  match unlessDefault found [Term.isWord "medium", Term.isWord "none", isCurrentColor] with
  | [] => return [.ofWord "none"]
  | ts => return ts

/-- A line by its width, style and color. -/
def line (style : Reading Term) : Grammar := do return [← lineTerms style]

/-! ### Corners -/

/-- Radii of the corners, across and down. They are written once if they are the same. -/
def radiusTerms : Reading (List Term) := do
  let across ← sideTerms Term.lengthPercentage
  if ← passes (delim '/') then
    let down ← sideTerms Term.lengthPercentage
    if Term.writeTerms true across = Term.writeTerms true down then return across
    return across ++ .slash :: down
  return across

/-! ### Shadows -/

/-- Lengths that are not written if they are nothing, as are the ones after them. -/
def trimZeros (ts : List Term) : List Term := (ts.reverse.dropWhile Term.isZero).reverse

/-- Two lengths, and up to `extra` further ones. -/
def shadowLengths : Nat → Reading (List Term)
  | 0 => do return [← Term.length, ← Term.length]
  | extra + 1 => do
    let ts ← shadowLengths extra
    if ts.length < extra + 2 then return ts
    return ts ++ (← attempt Term.length).toList

/-! ### The list -/

/-- Properties of borders. -/
def border : List Property :=
  let sideNames := boxSides.map ("border-" ++ ·)
  each (sideNames.map (· ++ "-color")) (Value.single Term.anyColor)
    ++ each (sideNames.map (· ++ "-style")) (Value.single lineStyle)
    ++ each (sideNames.map (· ++ "-width")) (Value.single lineWidth)
    ++ each (sideNames ++ ["border", "border-block", "border-inline"]) (line lineStyle)
    ++ each ["border-block-color", "border-inline-color"] (pair Term.anyColor)
    ++ each ["border-block-style", "border-inline-style"] (pair lineStyle)
    ++ each ["border-block-width", "border-inline-width"] (pair lineWidth)
    ++ each ["border-top-left-radius", "border-top-right-radius", "border-bottom-left-radius",
      "border-bottom-right-radius", "border-start-start-radius", "border-start-end-radius",
      "border-end-start-radius", "border-end-end-radius"] (pair Term.lengthPercentage)
    ++ [⟨"border-color", [], sides Term.anyColor⟩,
      ⟨"border-style", [], sides lineStyle⟩,
      ⟨"border-width", [], sides lineWidth⟩,
      ⟨"border-radius", ["webkit", "moz"], do return [← radiusTerms]⟩,
      ⟨"border-spacing", [], pair Term.length⟩,
      ⟨"outline", [], line outlineStyle⟩,
      ⟨"outline-color", [], Value.single Term.anyColor⟩,
      ⟨"outline-style", [], Value.single outlineStyle⟩,
      ⟨"outline-width", [], Value.single lineWidth⟩]
    ++ ["border-image-source", "border-image-outset", "border-image-repeat",
      "border-image-width", "border-image-slice"].map bare
    ++ [marked "border-image" ["webkit", "moz", "o"]]

end OneFile.Style.Property
