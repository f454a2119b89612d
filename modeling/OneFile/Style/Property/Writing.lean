import OneFile.Style.Property.Border

/-!
# Properties of text

Fonts, lines of text, lists and shadows.

## Main definitions

* `OneFile.Style.Property.writing`
-/

namespace OneFile.Style.Property

open Reading Value

/-! ### Fonts -/

/-- The names of fonts that stand for a kind of font. -/
def genericFamilies : List String := [
  "serif", "sans-serif", "cursive", "fantasy", "monospace", "system-ui", "emoji", "math",
  "fangsong", "ui-serif", "ui-sans-serif", "ui-monospace", "ui-rounded"] ++ Keyword.universal

/-- The parts of a text between blanks. -/
def splitBlanks : Text → List Text
  | [] => [[]]
  | c :: s =>
    match splitBlanks s with
    | [] => [[c]]
    | part :: parts => if c = ' ' then [] :: part :: parts else (c :: part) :: parts

/-- The name of a font, which is quoted if that is shorter or the name could be taken for a kind
of font. -/
def familyName (name : Text) : Term :=
  let bare := [' '].intercalate ((splitBlanks name).map writeIdent)
  if !name.isEmpty && !Keyword.isAmong genericFamilies name
      && Text.size bare < Text.size name + 2 then .word bare
  else .string name

/-- A font: a kind, a string or a row of names. -/
def family : Reading Term :=
  Term.oneWord genericFamilies <|> (familyName <$> string) <|> do
    let names ← many ident
    guard !names.isEmpty
    return familyName ([' '].intercalate names)

/-- How thick a font is. -/
def fontWeight : Reading Term :=
  Term.anyNumber <|> Term.oneWord ["normal", "bold", "bolder", "lighter"]

/-- How large a font is. -/
def fontSize : Reading Term :=
  Term.lengthPercentage <|> Term.oneWord ["xx-small", "x-small", "small", "medium", "large",
    "x-large", "xx-large", "xxx-large", "smaller", "larger"]

/-- The names of widths of a font. -/
def stretchWords : List String := [
  "normal", "ultra-condensed", "extra-condensed", "condensed", "semi-condensed", "semi-expanded",
  "expanded", "extra-expanded", "ultra-expanded"]

/-- How wide a font is. -/
def fontStretch : Reading Term := Term.oneWord stretchWords <|> Term.plainPercentage

/-- How a font leans. The usual angle is not written. -/
def fontStyle : Reading (List Term) := do
  match String.ofList (← keyword) with
  | "normal" => return [.ofWord "normal"]
  | "italic" => return [.ofWord "italic"]
  | "oblique" =>
    let angle ← attempt Term.angle
    let angle := angle.filter fun t => !t.same (.amount ⟨14, .angle "deg".toList⟩)
    return .ofWord "oblique" :: angle.toList
  | _ => failure

/-- How high a line is. -/
def lineHeight : Reading Term :=
  Term.oneWord ["normal"] <|> Term.anyNumber <|> Term.lengthPercentage

/-- Fonts with commas between them. -/
def families : Grammar := listOf family

/-- A font by all that it is like. The parts before the size are in any order; each of them may be
given as the usual one. -/
def font : Grammar := do
  let normal : Reading (List Term) := do word "normal"; return []
  let found ← anyOrder [normal, normal, normal, normal, fontStyle,
    List.singleton <$> fontWeight, List.singleton <$> Term.oneWord ["small-caps"],
    List.singleton <$> Term.oneWord stretchWords]
  let size ← fontSize
  let height ← if ← passes (delim '/') then some <$> lineHeight else pure none
  let height := height.filter fun t => !t.isWord "normal"
  match found.drop 4, ← families with
  | [style, weight, caps, stretch], first :: others =>
    let part (o : Option (List Term)) : List Term := o.getD []
    let before := part style ++ part caps ++ part weight ++ part stretch ++ size ::
      height.elim [] fun t => [.slash, t]
    return (before ++ first) :: others
  | _, _ => failure

/-! ### Lines of text -/

/-- Space between letters or words. -/
def spacing : Reading Term := Term.oneWord ["normal"] <|> Term.length

/-- The lines that text is decorated with, in a fixed order. -/
def decorationLines : Reading (List Term) := do
  let names := ["underline", "overline", "line-through", "blink"]
  let found ← anyOrder (names.map fun s => Term.oneWord [s])
  let ts := found.filterMap id
  if !ts.isEmpty then return ts
  List.singleton <$> Term.oneWord ["none", "spelling-error", "grammar-error"]

/-- The style of a decoration. -/
def decorationStyle : Reading Term := Term.oneWord ["solid", "double", "dotted", "dashed", "wavy"]

/-- How thick a decoration is. -/
def decorationThickness : Reading Term :=
  Term.oneWord ["auto", "from-font"] <|> Term.lengthPercentage

/-- The decoration of text. -/
def decoration : Grammar := do
  let found ← anyOrder [decorationLines, List.singleton <$> decorationThickness,
    List.singleton <$> decorationStyle, List.singleton <$> Term.anyColor]
  match found with
  | [lines, thickness, style, color] =>
    let lines := lines.getD [.ofWord "none"]
    if lines matches [.word ['n', 'o', 'n', 'e']] then return [lines]
    let part (o : Option (List Term)) (isUsual : Term → Bool) : List Term :=
      (o.getD []).filter fun t => !isUsual t
    return [lines ++ part thickness (Term.isWord "auto") ++ part style (Term.isWord "solid")
      ++ part color isCurrentColor]
  | _ => failure

/-- How far the first line of text is moved. -/
def textIndent : Grammar := do
  let found ← anyOrder [Term.lengthPercentage, Term.oneWord ["hanging"],
    Term.oneWord ["each-line"]]
  guard (found.head?.bind id).isSome
  return [found.filterMap id]

/-- The change of the case of letters. -/
def textTransform : Grammar := do
  if ← passes (word "none") then return [[.ofWord "none"]]
  let found ← anyOrder [Term.oneWord ["uppercase", "lowercase", "capitalize"],
    Term.oneWord ["full-width"], Term.oneWord ["full-size-kana"]]
  let ts := found.filterMap id
  guard !ts.isEmpty
  return [ts]

/-! ### Shadows -/

/-- The shadow of a box. -/
def boxShadow : Reading (List Term) := do
  let found ← anyOrder [List.singleton <$> Term.oneWord ["inset"], shadowLengths 2,
    List.singleton <$> Term.anyColor]
  match found with
  | [inset, some lengths, color] =>
    return inset.getD [] ++ lengths.take 2 ++ trimZeros (lengths.drop 2)
      ++ (color.getD []).filter fun t => !isCurrentColor t
  | _ => failure

/-- The shadow of text. -/
def textShadow : Reading (List Term) := do
  let found ← anyOrder [shadowLengths 2, List.singleton <$> Term.anyColor]
  match found with
  | [some lengths, color] =>
    return lengths.take 2 ++ trimZeros (lengths.drop 2)
      ++ (color.getD []).filter fun t => !isCurrentColor t
  | _ => failure

/-! ### The list -/

/-- Properties of text. -/
def writing : List Property := [
  ⟨"color", [], Value.single Term.anyColor⟩,
  ⟨"font-weight", [], Value.single fontWeight⟩,
  ⟨"font-size", [], Value.single fontSize⟩,
  ⟨"font-stretch", [], Value.single fontStretch⟩,
  ⟨"font-family", [], families⟩,
  ⟨"font-style", [], do return [← fontStyle]⟩,
  words "font-variant-caps" ["normal", "small-caps", "all-small-caps", "petite-caps",
    "all-petite-caps", "unicase", "titling-caps"],
  ⟨"line-height", [], Value.single lineHeight⟩,
  ⟨"font", [], font⟩,
  ⟨"text-transform", [], textTransform⟩,
  words "white-space" ["normal", "pre", "nowrap", "pre-wrap", "break-spaces", "pre-line"],
  ⟨"tab-size", ["moz", "o"], Value.single (Term.anyNumber <|> Term.length)⟩,
  words "word-break" ["normal", "keep-all", "break-all", "break-word"],
  words "line-break" ["auto", "loose", "normal", "strict", "anywhere"],
  ⟨"hyphens", ["webkit", "moz", "ms"], Value.single (Term.oneWord ["none", "manual", "auto"])⟩,
  words "overflow-wrap" ["normal", "anywhere", "break-word"],
  words "word-wrap" ["normal", "anywhere", "break-word"],
  words "text-align" ["start", "end", "left", "right", "center", "justify", "match-parent",
    "justify-all"],
  ⟨"text-align-last", ["moz"], Value.single (Term.oneWord ["auto", "start", "end", "left", "right",
    "center", "justify", "match-parent"])⟩,
  words "text-justify" ["auto", "none", "inter-word", "inter-character"],
  ⟨"word-spacing", [], Value.single spacing⟩,
  ⟨"letter-spacing", [], Value.single spacing⟩,
  ⟨"text-indent", [], textIndent⟩,
  ⟨"text-decoration-line", ["webkit", "moz"], do return [← decorationLines]⟩,
  ⟨"text-decoration-style", ["webkit", "moz"], Value.single decorationStyle⟩,
  ⟨"text-decoration-color", ["webkit", "moz"], Value.single Term.anyColor⟩,
  ⟨"text-decoration-thickness", [], Value.single decorationThickness⟩,
  ⟨"text-decoration", ["webkit", "moz"], decoration⟩,
  ⟨"text-decoration-skip-ink", ["webkit"], Value.single (Term.oneWord ["auto", "none", "all"])⟩,
  ⟨"text-emphasis-color", ["webkit"], Value.single Term.anyColor⟩,
  ⟨"text-shadow", [], list textShadow⟩,
  ⟨"box-shadow", ["webkit", "moz"], list boxShadow⟩,
  ⟨"text-size-adjust", ["webkit", "moz", "ms"],
    Value.single (Term.oneWord ["auto", "none"] <|> Term.plainPercentage)⟩,
  words "direction" ["ltr", "rtl"],
  words "unicode-bidi" ["normal", "embed", "isolate", "bidi-override", "isolate-override",
    "plaintext"],
  words "list-style-position" ["inside", "outside"],
  ⟨"caret-color", [], Value.single (Term.oneWord ["auto"] <|> Term.anyColor)⟩,
  ⟨"accent-color", [], Value.single (Term.oneWord ["auto"] <|> Term.anyColor)⟩,
  ⟨"user-select", ["webkit", "moz", "ms"],
    Value.single (Term.oneWord ["auto", "text", "none", "contain", "all"])⟩,
  ⟨"print-color-adjust", ["webkit"], Value.single (Term.oneWord ["economy", "exact"])⟩] ++
  ["font-palette", "list-style-type", "list-style-image", "list-style", "marker-side", "cursor",
    "caret-shape", "caret", "color-scheme", "composes"].map bare ++
  [marked "text-emphasis-style" ["webkit"], marked "text-emphasis" ["webkit"],
    marked "text-emphasis-position" ["webkit"], marked "appearance" ["webkit", "moz", "ms"]]

end OneFile.Style.Property
