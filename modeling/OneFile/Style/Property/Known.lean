import OneFile.Style.Property.Background
import OneFile.Style.Property.Filter
import OneFile.Style.Property.Flow
import OneFile.Style.Property.Grid
import OneFile.Style.Property.Motion
import OneFile.Style.Property.Writing

/-!
# The properties that are known

## Main definitions

* `OneFile.Style.Property.ofName?` — the property of a name in lower case.
* `OneFile.Style.Property.fold` — the name of a property as it is written.
-/

namespace OneFile.Style.Property

open Reading Value

/-- What a shape is filled with. -/
def paint : Reading Term :=
  Term.oneWord ["none", "context-fill", "context-stroke"] <|> Term.address <|> Term.anyColor

/-- Properties of shapes. -/
def shapes : List Property := [
  ⟨"fill", [], Value.single paint⟩,
  words "fill-rule" ["nonzero", "evenodd"],
  ⟨"fill-opacity", [], Value.single Term.opacity⟩,
  ⟨"stroke", [], Value.single paint⟩,
  ⟨"stroke-opacity", [], Value.single Term.opacity⟩,
  ⟨"stroke-width", [], Value.single Term.lengthPercentage⟩,
  words "stroke-linecap" ["butt", "round", "square"],
  words "stroke-linejoin" ["miter", "miter-clip", "round", "bevel", "arcs"],
  ⟨"stroke-miterlimit", [], Value.single Term.anyNumber⟩,
  ⟨"stroke-dashoffset", [], Value.single Term.lengthPercentage⟩,
  words "clip-rule" ["nonzero", "evenodd"],
  words "image-rendering" ["auto", "optimizespeed", "optimizequality"],
  words "container-type" ["normal", "inline-size", "size", "scroll-state"]] ++
  ["stroke-dasharray", "marker-start", "marker-mid", "marker-end", "marker",
    "color-interpolation", "color-interpolation-filters", "color-rendering", "shape-rendering",
    "text-rendering", "mask-type", "mask-border", "mask-border-mode", "mask-border-source",
    "mask-border-slice", "mask-border-width", "mask-border-outset", "mask-border-repeat",
    "container-name", "container", "view-transition-name", "view-transition-class",
    "view-transition-group"].map bare ++
  (["clip-path", "mask-image", "mask-repeat", "mask-position", "mask-clip", "mask-origin",
    "mask-size", "mask", "mask-box-image", "mask-box-image-source", "mask-box-image-slice",
    "mask-box-image-width", "mask-box-image-outset", "mask-box-image-repeat"].map
      (marked · ["webkit"])) ++
  ["mask-mode", "mask-position-x", "mask-position-y", "mask-composite", "-webkit-mask-composite",
    "mask-source-type", "-webkit-mask-source-type"].map bare

/-- Properties of older kinds of flexible boxes, whose names all have the mark of a vendor. -/
def olderFlow : List Property :=
  (["orient", "direction", "ordinal-group", "align", "flex", "flex-group", "pack", "lines"].flatMap
    fun s => [bare ("-webkit-box-" ++ s), bare ("-moz-box-" ++ s)]) ++
  (["pack", "order", "align", "item-align", "line-pack", "positive", "negative",
    "preferred-size"].map fun s => bare ("-ms-flex-" ++ s))

/-- The properties that are known, where `fold` makes the names of properties in their values. -/
def all (fold : FoldName) : List Property :=
  box ++ border ++ background ++ flow ++ grid ++ writing ++ motion fold ++ filters ++ shapes
    ++ olderFlow

/-- The names of the properties that are known. -/
def knownNames : List Text := (all id).flatMap names

/-- The name of a property as it is written: in lower case if it is known. -/
def fold (name : Text) : Text :=
  let lower := Text.lower name
  if lower = "all".toList || knownNames.contains lower then lower else name

/-- The property of a name in lower case. -/
def ofName? (name : Text) : Option Property := find? (all fold) name

end OneFile.Style.Property
