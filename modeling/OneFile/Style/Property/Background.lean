import OneFile.Style.Property.Border
import OneFile.Style.Value.Gradient

/-!
# Properties of backgrounds

## Main definitions

* `OneFile.Style.Property.layerTerms` — a layer of a background.
* `OneFile.Style.Property.background`
-/

namespace OneFile.Style.Property

open Reading Value

/-! ### Parts of a layer -/

/-- The functions that draw images in ways that are kept as they are. -/
def imageFunctions : List String := [
  "-webkit-linear-gradient", "-webkit-repeating-linear-gradient", "-webkit-radial-gradient",
  "-webkit-repeating-radial-gradient", "-moz-linear-gradient", "-moz-repeating-linear-gradient",
  "-moz-radial-gradient", "-moz-repeating-radial-gradient", "-o-linear-gradient",
  "-o-repeating-linear-gradient", "-o-radial-gradient", "-o-repeating-radial-gradient",
  "-webkit-gradient", "image-set", "-webkit-image-set"]

/-- An image that a function draws. -/
def drawnImage : Reading Term := Gradient.read <|> accept fun n =>
  match n with
  | .block (.call f) _ _ _ =>
    if Keyword.isAmong imageFunctions f then
      (Piece.ofNodes [n]).map .pieces
    else none
  | _ => none

/-- An image. -/
def image : Reading Term := Term.oneWord ["none"] <|> Term.address <|> drawnImage

/-- The size of an image. The height is left out if it follows from the width. -/
def imageSize : Reading (List Term) :=
  (List.singleton <$> Term.oneWord ["cover", "contain"]) <|> do
    let width ← Term.lengthPercentageOrAuto
    match ← attempt Term.lengthPercentageOrAuto with
    | none => return [width]
    | some height => return if height.isWord "auto" then [width] else [width, height]

/-- How an image is repeated, across and down. -/
def repetition : Reading (List Term) := do
  match String.ofList (← keyword) with
  | "repeat-x" => return [.ofWord "repeat-x"]
  | "repeat-y" => return [.ofWord "repeat-y"]
  | s =>
    let words := ["repeat", "space", "round", "no-repeat"]
    guard (words.contains s)
    match ← attempt (oneOf words) with
    | none => return [.ofWord s]
    | some t =>
      match s, String.ofList t with
      | "repeat", "no-repeat" => return [.ofWord "repeat-x"]
      | "no-repeat", "repeat" => return [.ofWord "repeat-y"]
      | _, t => return if s = t then [.ofWord s] else [.ofWord s, .ofWord t]

/-- What an image moves with. -/
def attachment : Reading Term := Term.oneWord ["scroll", "fixed", "local"]

/-- A box that a background starts from. -/
def originBox : Reading Term := Term.oneWord ["border-box", "padding-box", "content-box"]

/-- What a background is cut off at. -/
def clipBox : Reading Term :=
  Term.oneWord ["border-box", "padding-box", "content-box", "border", "text"]

/-- The position and size of an image; neither is written if both are usual. -/
def placement : Reading (List Term) := do
  let position ← Position.read
  let size ← attempt do
    delim '/'
    imageSize
  let size := size.filter fun ts => !(ts matches [.word ['a', 'u', 't', 'o']])
  match size with
  | some ts => return position.terms ++ .slash :: ts
  | none => return if position.isCorner then [] else position.terms

/-! ### Layers -/

/-- The terms of a part, if it is not the usual one. -/
def unlessUsual (isUsual : Term → Bool) (r : Reading Term) : Reading (List Term) := do
  let t ← r
  return if isUsual t then [] else [t]

/-- Whether a term is a color that covers nothing. -/
def isTransparent : Term → Bool
  | .color c => c = Color.transparent
  | _ => false

/-- The boxes that a background starts from and is cut off at. -/
def boxTerms (origin clip : Option Term) : List Term :=
  let start := origin.getD (.ofWord "padding-box")
  let cut := clip.getD (origin.getD (.ofWord "border-box"))
  let cutsAtBox := cut.isWord "padding-box" || cut.isWord "content-box"
  if !start.isWord "padding-box" || cutsAtBox then
    if cut.same start then [start] else [start, cut]
  else if cut.isWord "border-box" then []
  else [cut]

/-- A layer of a background: its parts in any order. -/
def layerTerms : Reading (List Term) := do
  let found ← anyOrder [
    unlessUsual isTransparent Term.anyColor,
    placement,
    unlessUsual (Term.isWord "none") image,
    (fun ts => if ts matches [.word ['r', 'e', 'p', 'e', 'a', 't']] then [] else ts) <$> repetition,
    unlessUsual (Term.isWord "scroll") attachment,
    List.singleton <$> originBox,
    List.singleton <$> clipBox]
  match found with
  | [color, place, picture, repeats, moves, origin, clip] =>
    guard (found.any Option.isSome)
    let part (o : Option (List Term)) : List Term := o.getD []
    let ts := part color ++ part picture ++ part place ++ part repeats ++ part moves
      ++ boxTerms (part origin).head? (part clip).head?
    return if ts.isEmpty then [.ofWord "none"] else ts
  | _ => failure

/-! ### The list -/

/-- A place across or down. -/
def placeTerms (near far : String) : Reading (List Term) := do
  return Position.placeTerms near far (← Position.place (Position.sideOf near far))

/-- Properties of backgrounds. -/
def background : List Property := [
  ⟨"background-color", [], Value.single Term.anyColor⟩,
  ⟨"background-image", [], listOf image⟩,
  ⟨"background-position-x", [], list (placeTerms "left" "right")⟩,
  ⟨"background-position-y", [], list (placeTerms "top" "bottom")⟩,
  ⟨"background-position", [], list (Position.terms <$> Position.read)⟩,
  ⟨"background-size", [], list imageSize⟩,
  ⟨"background-repeat", [], list repetition⟩,
  ⟨"background-attachment", [], listOf attachment⟩,
  ⟨"background-clip", ["webkit", "moz"], listOf clipBox⟩,
  ⟨"background-origin", [], listOf originBox⟩,
  ⟨"background", [], list layerTerms⟩]

end OneFile.Style.Property
