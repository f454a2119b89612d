import OneFile.Style.Rule.Printer
import OneFile.Style.Rule.Reader

/-!
# Style sheets

A style sheet is a list of rules. Comments at its start that are marked with an exclamation mark are
kept, and come first when it is written.

## Main definitions

* `OneFile.Style.Sheet`
* `OneFile.Style.Sheet.read?` — the style sheet that a text stands for.
* `OneFile.Style.Sheet.write`
-/

namespace OneFile.Style

open Reading

/-- A style sheet. -/
structure Sheet where
  /-- What is between the marks of the comments that are kept. -/
  comments : List Text
  rules : List Rule
deriving Repr

namespace Sheet

/-! ### Rules that come first -/

/-- The rules that may come next depend on those that came before. -/
inductive Stage where
  | start
  | layers
  | imports
  | namespaces
  | rules
deriving DecidableEq, Repr

/-- Whether other style sheets may still be taken in. -/
def Stage.allowsImports (s : Stage) : Bool := s = .start || s = .layers || s = .imports

/-- An address, which may be a string. -/
def address : Reading Text :=
  string <|> do
    let .url content ← Term.address | failure
    return content

/-- The layer that another style sheet is taken into. -/
def importLayer : Reading (Option (Option LayerName)) :=
  (do word "layer"; return some none) <|> (do return some (some (← call "layer" layerName)))
    <|> pure none

/-- What has to be supported for another style sheet to be taken in. -/
def importSupport : Reading (Option Support) := do
  match (← get).dropWhile Node.isGap with
  | .block (.call f) _ _ _ :: _ =>
    if Text.lower f = "supports".toList then
      return some (← call "supports" (Support.read <|> Support.ofDeclaration))
    return none
  | _ => return none

/-- Another style sheet that is taken in. -/
def importStatement : Reading Statement := do
  let url ← address
  let layer ← importLayer
  let support ← importSupport
  return .import url layer support (← MediaQuery.readList)

/-- A namespace. -/
def namespaceStatement : Reading Statement := do
  let label ← attempt ident
  return .namespace label (← address)

/-! ### Reading -/

/-- A rule that has no braces. -/
def withoutBraces (r : Reading Statement) (parts : Item.Parts) : Option Statement := do
  guard parts.body.isNone
  r.all parts.preface

/-- A rule that starts with an at sign, and the stage after it. -/
def special (stage : Stage) (name : Text) (parts : Item.Parts) :
    Option (Option Rule × Stage) := do
  let other : Option Rule := Rule.special Rule.body false name parts
  match String.ofList (Text.lower name) with
  | "import" =>
    guard stage.allowsImports
    return (some (.statement (← withoutBraces importStatement parts)), .imports)
  | "namespace" =>
    guard (stage ≠ .rules)
    return (some (.statement (← withoutBraces namespaceStatement parts)), .namespaces)
  | "charset" =>
    guard parts.body.isNone
    let _ ← string.all parts.preface
    return (none, stage)
  | "property" =>
    let label ← dashedName.all parts.preface
    return (some (.statement (← VariableType.statement label (← parts.body))), .rules)
  | "layer" =>
    if parts.body.isNone && (stage = .start || stage = .layers) then return (← other, .layers)
    return (← other, .rules)
  | _ => return (← other, if parts.body.isNone then stage else .rules)

/-- Whether a node may come between rules. -/
def isBetween (n : Node) : Bool :=
  n.isGap || (n matches .leaf .markupOpen _) || (n matches .leaf .markupClose _)

/-- Rules, at most `fuel`. -/
def rulesWithin : Nat → Stage → Reading (List Rule)
  | 0, _ => return []
  | fuel + 1, stage => do
    modify (·.dropWhile isBetween)
    if (← get).isEmpty then return []
    match ← attempt Item.ruleName with
    | some name =>
      let parts ← Item.parts
      let (rule, stage') ← (special stage name parts : Option _)
      return rule.toList ++ (← rulesWithin fuel stage')
    | none =>
      let rule ← Rule.styleRule Rule.body false
      return rule :: (← rulesWithin fuel .rules)

/-- Passes over the name of an encoding at the start. -/
def skipEncoding : Reading Unit := do
  modify (·.dropWhile isBetween)
  let passed ← attempt do
    guard (Text.lower (← Item.ruleName) = "charset".toList)
    Item.parts
  return passed.elim () fun _ => ()

/-- The rules of a style sheet. -/
def rulesOf : Reading (List Rule) := do
  let fuel := (← get).length
  skipEncoding
  rulesWithin fuel .start

/-- What is between the marks of a comment. -/
def commentContent (raw : Text) : Text :=
  let s := raw.drop 2
  (Text.dropSuffix? "*/".toList s).getD s

/-- The comments at the start that are kept. -/
def leadingComments : List Node → List Text
  | .leaf .blank _ :: ns => leadingComments ns
  | .leaf .comment raw :: ns =>
    let content := commentContent raw
    if content.head? = some '!' then content :: leadingComments ns else []
  | _ => []

/-- The style sheet that a text stands for. -/
def read? (s : Text) : Option Sheet := do
  let ns := Node.ofText s
  return ⟨leadingComments ns, ← rulesOf.all ns⟩

/-! ### Writing -/

/-- A comment on lines of its own. -/
def writeComment (content : Text) : Text := '/' :: '*' :: (content ++ ['*', '/', '\n'])

/-- A style sheet. -/
def write (sheet : Sheet) : Text :=
  sheet.comments.flatMap writeComment ++ Rule.writeAll 0 sheet.rules ++ ['\n']

end Sheet

end OneFile.Style
