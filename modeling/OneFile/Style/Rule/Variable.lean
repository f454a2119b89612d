import OneFile.Style.Property.Background
import OneFile.Style.Property.Motion
import OneFile.Style.Rule
import OneFile.Style.Rule.Items

/-!
# Types of variables

The values of a variable can be said to be of a type, which a string describes: alternatives with
bars between them, each of them the name of a kind of value or a word that stands for itself.

## Main definitions

* `OneFile.Style.VariableType`
* `OneFile.Style.VariableType.statement` — the rule that gives a variable a type.
-/

namespace OneFile.Style

open Reading

/-- How often a value may be repeated. -/
inductive Repetition where
  | once
  /-- With blanks in between. -/
  | blanks
  /-- With commas in between. -/
  | commas
deriving DecidableEq, Repr

/-- An alternative of a type. -/
structure Alternative where
  /-- The name of a kind of value, or a word that stands for itself. -/
  name : Text
  isKind : Bool
  repetition : Repetition
deriving DecidableEq, Repr

/-- The type of a variable; no alternatives allow for anything. -/
abbrev VariableType := List Alternative

namespace VariableType

/-! ### Reading -/

/-- Whether a character is a blank in the description of a type. -/
def isGap (c : Char) : Bool := isSpace c

/-- A kind of value, or a word. -/
def kind? (s : Text) : Option (Text × Bool × Text) :=
  match s with
  | '<' :: s =>
    let name := s.takeWhile (· ≠ '>')
    match s.drop name.length with
    | [] => none
    | _ :: others => some (Text.lower name, true, others)
  | c :: _ =>
    if startsNameChar c then
      let name := s.takeWhile isNameChar
      some (name, false, s.drop name.length)
    else none
  | [] => none

/-- Alternatives with bars between them, at most `fuel`. -/
def alternatives? : Nat → Text → Option VariableType
  | 0, _ => none
  | fuel + 1, s => do
    let (name, isKind, others) ← kind? (s.dropWhile isGap)
    let (repetition, others) : Repetition × Text :=
      if isKind && name = "transform-list".toList then (.once, others)
      else
        match others with
        | '+' :: others => (.blanks, others)
        | '#' :: others => (.commas, others)
        | _ => (.once, others)
    match others.dropWhile isGap with
    | [] => return [⟨name, isKind, repetition⟩]
    | '|' :: others => return ⟨name, isKind, repetition⟩ :: (← alternatives? fuel others)
    | _ => none

/-- The values of each kind. -/
def kinds : List (String × Value.Grammar) := [
  ("length", Value.single Term.length),
  ("number", Value.single Term.anyNumber),
  ("percentage", Value.single Term.plainPercentage),
  ("length-percentage", Value.single Term.lengthPercentage),
  ("string", Value.single Term.quoted),
  ("color", Value.single Term.anyColor),
  ("image", Value.single Property.image),
  ("url", Value.single Term.address),
  ("integer", Value.single Term.integer),
  ("angle", Value.single Term.angle),
  ("time", Value.single Term.time),
  ("resolution", Value.single Term.resolution),
  ("transform-function", Value.single Property.transformation),
  ("transform-list", Property.transform),
  ("custom-ident", Value.single Term.customName)]

/-- The type that a string describes. -/
def ofText? (s : Text) : Option VariableType := do
  let s := ((s.dropWhile isGap).reverse.dropWhile isGap).reverse
  if s = ['*'] then return []
  let type ← alternatives? s.length s
  guard (type.all fun a => !a.isKind || (kinds.map fun k => k.1.toList).contains a.name)
  return type

/-- A value of an alternative. -/
def valueOf (a : Alternative) : Value.Grammar :=
  if a.isKind then
    ((kinds.find? fun k => k.1.toList = a.name).map Prod.snd).getD failure
  else do
    let n ← ident
    guard (n = a.name)
    return [[.name n]]

/-- Values of an alternative, as often as it allows for. -/
def repeated (a : Alternative) : Value.Grammar :=
  match a.repetition with
  | .once => valueOf a
  | .blanks => do
    let found ← many (valueOf a)
    guard (!found.isEmpty && (← atEnd))
    return [found.flatMap List.flatten]
  | .commas => do return (← commaSeparated (valueOf a)).flatten

/-- A value of a type. -/
def value (type : VariableType) : Reading Value :=
  match type with
  | [] => do
    let ps ← (Piece.ofNodes (← rest) : Option _)
    return .pieces ps
  | _ => .items <$> type.foldr (fun a others => repeated a <|> others) failure

/-! ### Writing -/

/-- An alternative. -/
def writeAlternative (a : Alternative) : Text :=
  (if a.isKind then '<' :: (a.name ++ ['>']) else a.name) ++
    match a.repetition with
    | .once => []
    | .blanks => ['+']
    | .commas => ['#']

/-- A type as a string. -/
def write (type : VariableType) : Text :=
  '"' :: ((if type.isEmpty then ['*'] else " | ".toList.intercalate (type.map writeAlternative))
    ++ ['"'])

/-! ### Rules -/

/-- What is said about a variable. -/
inductive Detail where
  | type (t : VariableType)
  | inherits (b : Bool)
  | initial (ns : List Node)

/-- Something that is said about a variable. -/
def detail : Reading Detail := do
  let name ← keyword
  token .colon
  match String.ofList name with
  | "syntax" => return .type (← (ofText? (← string) : Option _))
  | "inherits" => return .inherits ((← oneOf ["true", "false"]) = "true".toList)
  | "initial-value" => return .initial (← rest)
  | _ => failure

/-- The rule that gives a variable a type. The initial value may be left out only if anything is
allowed. -/
def statement (name : Text) (ns : List Node) : Option Statement := do
  let one : Reading Detail := do (detail.all (← Item.upToSemicolon) : Option _)
  let details := (← Item.all one ns).reverse
  let type ← details.findSome? fun d => match d with
    | .type t => some t
    | _ => none
  let inherits ← details.findSome? fun d => match d with
    | .inherits b => some b
    | _ => none
  let initial := details.findSome? fun d => match d with
    | .initial ns => some ns
    | _ => none
  match initial with
  | none =>
    guard type.isEmpty
    return .variableType name type.write inherits none
  | some ns =>
    let (v, _) ← value type ns
    return .variableType name type.write inherits (some v)

end VariableType

end OneFile.Style
