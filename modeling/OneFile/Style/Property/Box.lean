import OneFile.Style.Property.Basic

/-!
# Properties of boxes

Sizes, margins, places and how boxes are shown.

## Main definitions

* `OneFile.Style.Property.box`
-/

namespace OneFile.Style.Property

open Reading Value

/-! ### Sizes -/

/-- The names of sizes that follow from the content or from what is around. -/
def sizeWords : List String := [
  "min-content", "-webkit-min-content", "-moz-min-content", "max-content", "-webkit-max-content",
  "-moz-max-content", "stretch", "-webkit-fill-available", "-moz-available", "fit-content",
  "-webkit-fit-content", "-moz-fit-content", "contain"]

/-- The size that fits the content, up to a limit. -/
def fitContent : Reading Term := do
  let t ← call "fit-content" Term.lengthPercentage
  return .call "fit-content".toList [[t]]

/-- A size, where `absent` is what stands for none. -/
def size (absent : String) : Grammar :=
  Value.single (Term.oneWord (absent :: sizeWords) <|> fitContent <|> Term.lengthPercentage)

/-- A width for each height. The height is left out if it is one. -/
def ratioTerms : Reading (List Term) := do
  let a ← Term.numberValue
  if ← passes (delim '/') then
    let b ← Term.numberValue
    if b = 1 then return [.number a] else return [.number a, .slash, .number b]
  else return [.number a]

/-- The relation of a width to a height. -/
def aspectRatio : Grammar := do
  let before ← passes (word "auto")
  let ratio ← attempt ratioTerms
  let after ← if before then pure true else passes (word "auto")
  guard (after || ratio.isSome)
  return [(if after then [.ofWord "auto"] else []) ++ ratio.getD []]

/-! ### Display -/

/-- What a box is to the text around it, what it is to its content, and whether it is an item of a
list. -/
def displayTerms : Reading (List Term) := do
  let found ← anyOrder [
    oneOf ["block", "inline", "run-in"],
    oneOf ["flow", "flow-root", "table", "flex", "-webkit-flex", "-ms-flexbox", "-webkit-box",
      "-moz-box", "grid", "ruby"],
    oneOf ["list-item"]]
  match found with
  | [outside, inside, item] =>
    guard (outside.isSome || inside.isSome || item.isSome)
    let inside := inside.getD "flow".toList
    let isFlow := inside == "flow".toList
    guard (item.isNone || isFlow || inside == "flow-root".toList)
    let usual := if inside = "ruby".toList then "inline".toList else "block".toList
    let outside := outside.getD usual
    let fused : List String := ["flow-root", "table", "flex", "-webkit-flex", "-webkit-box",
      "-moz-box", "grid"]
    if outside = "inline".toList && item.isNone && Keyword.isAmong fused inside then
      return [.word (match String.ofList inside with
        | "flow-root" => "inline-block".toList
        | "-webkit-flex" => "-webkit-inline-flex".toList
        | "-webkit-box" => "-webkit-inline-box".toList
        | "-moz-box" => "-moz-inline-box".toList
        | s => "inline-".toList ++ s.toList)]
    return (if outside ≠ usual || (isFlow && item.isNone) then [.word outside] else [])
      ++ (if isFlow then [] else [.word inside]) ++ (item.map .word).toList
  | _ => failure

/-- The names of displays that are given by a single name. -/
def displayWords : List String := [
  "none", "contents", "table-row-group", "table-header-group", "table-footer-group", "table-row",
  "table-cell", "table-column-group", "table-column", "table-caption", "ruby-base", "ruby-text",
  "ruby-base-container", "ruby-text-container", "inline-block", "inline-table", "inline-flex",
  "-webkit-inline-flex", "-ms-inline-flexbox", "-webkit-inline-box", "-moz-inline-box",
  "inline-grid"]

/-- How a box is shown. -/
def display : Grammar := do return [← displayTerms <|> List.singleton <$> Term.oneWord displayWords]

/-! ### The list -/

/-- The sides of a box in the way of writing. -/
def flowSides : List String := ["block-start", "block-end", "inline-start", "inline-end"]

/-- The sides of a box. -/
def boxSides : List String := ["top", "right", "bottom", "left"] ++ flowSides

/-- Properties for each side, for two sides in the way of writing, and for all four sides. -/
def spaces (name : String) (r : Reading Term) : List Property :=
  each (boxSides.map fun s => name ++ "-" ++ s) (Value.single r)
    ++ each [name ++ "-block", name ++ "-inline"] (pair r)
    ++ [⟨name, [], sides r⟩]

/-- The names for what does not fit into a box. -/
def overflowWords : List String := ["visible", "hidden", "clip", "scroll", "auto"]

/-- Properties of boxes. -/
def box : List Property :=
  each ["width", "height", "min-width", "min-height", "block-size", "inline-size",
      "min-block-size", "min-inline-size"] (size "auto")
    ++ each ["max-width", "max-height", "max-block-size", "max-inline-size"] (size "none")
    ++ spaces "margin" Term.lengthPercentageOrAuto
    ++ spaces "padding" Term.lengthPercentageOrAuto
    ++ spaces "scroll-margin" Term.length
    ++ spaces "scroll-padding" Term.lengthPercentageOrAuto
    ++ each ["top", "right", "bottom", "left", "inset-block-start", "inset-block-end",
      "inset-inline-start", "inset-inline-end"] (Value.single Term.lengthPercentageOrAuto)
    ++ each ["inset-block", "inset-inline"] (pair Term.lengthPercentageOrAuto)
    ++ [⟨"inset", [], sides Term.lengthPercentageOrAuto⟩,
      ⟨"box-sizing", ["webkit", "moz"], Value.single (Term.oneWord ["content-box", "border-box"])⟩,
      ⟨"aspect-ratio", [], aspectRatio⟩,
      ⟨"overflow", [], pair (Term.oneWord overflowWords)⟩,
      words "overflow-x" overflowWords,
      words "overflow-y" overflowWords,
      ⟨"text-overflow", ["o"], Value.single (Term.oneWord ["clip", "ellipsis"])⟩,
      words "position" ["static", "relative", "absolute", "sticky", "-webkit-sticky", "fixed"],
      ⟨"display", [], display⟩,
      words "visibility" ["visible", "hidden", "collapse"],
      ⟨"opacity", [], Value.single Term.opacity⟩,
      ⟨"z-index", [], Value.single (Term.oneWord ["auto"] <|> Term.integer)⟩,
      ⟨"vertical-align", [], Value.single (Term.oneWord ["baseline", "sub", "super", "top",
        "text-top", "middle", "bottom", "text-bottom"] <|> Term.lengthPercentage)⟩,
      words "resize" ["none", "both", "horizontal", "vertical", "block", "inline"],
      ⟨"box-decoration-break", ["webkit"], Value.single (Term.oneWord ["slice", "clone"])⟩]

end OneFile.Style.Property
