import OneFile.Style.Query.Reader
import OneFile.Style.Rule.Descriptor
import OneFile.Style.Rule.Variable
import OneFile.Style.Selector.Reader

/-!
# Reading rules

The rules in a rule are read like those of the whole style sheet, except that declarations may be
among them if a style rule is around them.

## Main definitions

* `OneFile.Style.Rule.special` — a rule that starts with an at sign.
* `OneFile.Style.Rule.styleRule`
* `OneFile.Style.Rule.body` — the rules between braces.
-/

namespace OneFile.Style

open Reading

/-! ### Names -/

/-- A name that starts with two hyphens. -/
def dashedName : Reading Text := do
  let name ← ident
  guard (Declaration.isVariable name)
  return name

/-- The parts of a layer's name after the first one, each after a dot. -/
def layerParts : Reading (List Text) := many do
  Selector.adjacentDelim '.'
  Selector.adjacentIdent

/-- The name of a layer. -/
def layerName : Reading LayerName := do return (← ident) :: (← layerParts)

/-- The names of layers, of which there may be none. -/
def layerNames : Reading (List LayerName) := do
  if ← atEnd then return []
  commaSeparated layerName

/-- The name of an animation, which may be a string. -/
def keyframesName : Reading Term := do
  match ← Property.animationName with
  | .word _ => failure
  | t => return t

/-! ### Frames -/

/-- Where in an animation a frame is. -/
def framePlace : Reading (List Term) :=
  (List.singleton <$> Term.plainPercentage) <|>
  (List.singleton <$> Term.oneWord ["from", "to"]) <|> do
    let range ← Term.oneWord ["cover", "contain", "entry", "exit", "entry-crossing",
      "exit-crossing"]
    return [range, ← Term.plainPercentage]

/-- A frame; one that does not follow the grammar is passed over. -/
def frame : Reading (Option Frame) := do
  if (← attempt Item.ruleName).isSome then
    let _ ← Item.parts
    return none
  let preface ← Item.before Node.isBrace
  match ← attempt Item.braces with
  | none => return none
  | some ns =>
    return do
      let places ← (commaSeparated framePlace).all preface
      return ⟨places, ← Item.declarations ns⟩

/-- The frames of an animation. -/
def frames (ns : List Node) : List Frame := ((Item.all frame ns).getD []).filterMap id

/-! ### Pages -/

/-- The pages that a rule is about. -/
def pageSelector : Reading PageSelector := do
  let name ← attempt ident
  let pseudoClasses ← many do
    token .colon
    oneOf ["left", "right", "first", "last", "blank"]
  guard (name.isSome || !pseudoClasses.isEmpty)
  return ⟨name, pseudoClasses⟩

/-- The boxes in the margins of a page. -/
def marginNames : List String := [
  "top-left-corner", "top-left", "top-center", "top-right", "top-right-corner", "left-top",
  "left-middle", "left-bottom", "right-top", "right-middle", "right-bottom", "bottom-left-corner",
  "bottom-left", "bottom-center", "bottom-right", "bottom-right-corner"]

/-- A declaration about a page, or declarations about a box in its margins. -/
def pageItem : Reading (Declaration ⊕ (Text × List Declaration)) := do
  match ← attempt Item.ruleName with
  | none => return .inl (← Item.declaration)
  | some name =>
    let some name := Keyword.fold? marginNames name | failure
    let parts ← Item.parts
    guard (Node.skipGaps parts.preface).isEmpty
    let some ns := parts.body | failure
    return .inr (name, ← (Item.declarations ns : Option _))

/-- The rule about some pages. -/
def pageStatement (selectors : List PageSelector) (ns : List Node) : Option Statement := do
  let items ← Item.all pageItem ns
  let ds := items.filterMap fun i => i.getLeft?
  let margins := items.filterMap fun i => i.getRight?
  return .page selectors ds margins

/-! ### Rules -/

namespace Rule

/-- What reads the rules between braces; the flag tells whether a style rule is around them. -/
abbrev Inner := Bool → List Node → Option (List Rule)

/-- The selectors of a part of a document, in parentheses. -/
def scopeSelectors : Reading (List Selector) := accept fun n =>
  match n with
  | .block .paren _ children _ => Selector.readRelative children
  | _ => none

/-- The part of a document that rules are about. -/
def scopeHead : Reading Head := do
  let start ← attempt scopeSelectors
  let stop ← if ← passes (word "to") then some <$> scopeSelectors else pure none
  return .scope start stop

/-- The address of all documents. -/
def anyDocument : Reading Head := do
  call "url-prefix" do
    let _ ← attempt string
  return .document

/-- What reads the head of a rule that holds rules, by its name in lower case. -/
def head? (name : Text) : Option (Reading Head) :=
  match String.ofList name with
  | "media" => some (.media <$> MediaQuery.readList)
  | "supports" => some (.support <$> Support.read)
  | "container" => some (.container <$> ContainerQuery.read)
  | "scope" => some scopeHead
  | "starting-style" => some (pure .startingStyle)
  | "-moz-document" => some anyDocument
  | _ => none

/-- A name without the mark of a vendor, and the vendor. -/
def splitVendor (name : Text) : Option Text × Text :=
  match name with
  | '-' :: s => (some (s.takeWhile (· ≠ '-')), (s.dropWhile (· ≠ '-')).drop 1)
  | _ => (none, name)

/-- A rule that needs braces and holds no rules, by its name in lower case. -/
def statement? (name : Text) : Option (List Node → List Node → Option Statement) :=
  let bare (f : List Node → Option Statement) (preface ns : List Node) : Option Statement := do
    guard (Node.skipGaps preface).isEmpty
    f ns
  let described (r : Reading Text) (f : List Node → Option (List Declaration))
      (preface ns : List Node) : Option Statement := do
    return .descriptors name (some (← r.all preface)) (← f ns)
  let plainly (f : List Node → Option (List Declaration)) (ns : List Node) : Option Statement := do
    return .descriptors name none (← f ns)
  match String.ofList name with
  | "font-face" => some (bare (plainly fun ns => some (Descriptor.font ns)))
  | "view-transition" => some (bare (plainly fun ns => some (Descriptor.transition ns)))
  | "viewport" | "-ms-viewport" => some (bare (plainly Item.declarations))
  | "font-palette-values" => some (described dashedName fun ns => some (Descriptor.palette ns))
  | "counter-style" =>
    some (described authorName Item.declarations)
  | "page" => some fun preface ns => do
    let selectors ←
      if (Node.skipGaps preface).isEmpty then some []
      else (commaSeparated pageSelector).all preface
    pageStatement selectors ns
  | "keyframes" | "-webkit-keyframes" | "-moz-keyframes" | "-o-keyframes" | "-ms-keyframes" =>
    some fun preface ns => do
      return .keyframes (splitVendor name).1 (← keyframesName.all preface) (frames ns)
  | _ => none

/-- A rule that no meaning is known for. -/
def unknownStatement (name : Text) (parts : Item.Parts) : Option Statement := do
  let preface ← Piece.ofNodes (Node.skipGaps parts.preface)
  match parts.body with
  | none => return .unknown name preface none
  | some ns => return .unknown name preface (some (← Piece.ofNodes ns))

/-- A rule about layers: their order, or the rules in one of them. -/
def layerRule (inner : Inner) (inStyle : Bool) (parts : Item.Parts) : Option Rule := do
  let names ← layerNames.all parts.preface
  match parts.body, names with
  | none, [] => none
  | none, _ =>
    guard !inStyle
    return .statement (.layers names)
  | some ns, [] => return .block (.layer none) (← inner inStyle ns)
  | some ns, [name] => return .block (.layer (some name)) (← inner inStyle ns)
  | some _, _ => none

/-- A rule that starts with an at sign. -/
def special (inner : Inner) (inStyle : Bool) (name : Text) (parts : Item.Parts) :
    Option Rule := do
  let lower := Text.lower name
  if lower = "layer".toList then return ← layerRule inner inStyle parts
  if lower = "nest".toList && inStyle then
    let selectors ← Selector.readList parts.preface
    guard (selectors.all Component.listMentionsNesting)
    return .block (.nest selectors) (← inner true (← parts.body))
  match head? lower, statement? lower with
  | some r, _ => return .block (← r.all parts.preface) (← inner inStyle (← parts.body))
  | none, some f =>
    guard !inStyle
    return .statement (← f parts.preface (← parts.body))
  | none, none => return .statement (← unknownStatement name parts)

/-- A style rule. In another one, a semicolon cannot be part of its selectors. -/
def styleRule (inner : Inner) (inStyle : Bool) : Reading Rule := do
  let preface ← Item.before fun n => n.isBrace || (inStyle && n.isSemicolon)
  let ns ← Item.braces
  let selectors ← ((if inStyle then Selector.readNested preface else Selector.readList preface) :
    Option _)
  return .block (.style selectors) (← (inner true ns : Option _))

/-- A rule, or a declaration in a style rule. -/
def item (inner : Inner) (inStyle : Bool) : Reading Rule := do
  match ← attempt Item.ruleName with
  | some name =>
    let parts ← Item.parts
    (special inner inStyle name parts : Option _)
  | none =>
    if inStyle && (← Item.startsName) then
      (do return .declarations [← Item.declaration]) <|> styleRule inner inStyle
    else styleRule inner inStyle

/-- The rules between braces that are nested at most `depth` deep. -/
def bodyWithin : Nat → Inner
  | 0, _, _ => none
  | depth + 1, inStyle, ns =>
    (Item.all (item (bodyWithin depth) inStyle) ns).map fun rs => rs.foldr before []

/-- The rules between braces. -/
def body : Inner := fun inStyle ns => bodyWithin (Node.depthList ns + 1) inStyle ns

end Rule

end OneFile.Style
