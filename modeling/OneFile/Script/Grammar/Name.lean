import OneFile.Script.Grammar.Basic

/-!
# Names and modifiers

Names that are declared or referred to, names of properties, and the words that can stand before
a declaration.

## Main definitions

* `OneFile.Script.Rule.bindingName`
* `OneFile.Script.Rule.propertyName`
* `OneFile.Script.Rule.modifiers`, `OneFile.Script.Rule.decorators`
-/

namespace OneFile.Script

namespace Rule

/-! ### Names -/

/-- Notes a violation if the word is an operator around here. -/
def checkName (w : Word) : Rule Unit := do
  let set ← setting
  noteIf ((set.inAsync && w == .await) || (set.inGenerator && w == .yield))

/-- A name that is declared. -/
def bindingName : Rule Unit := do
  match ← word? with
  | some w =>
    if !w.isBinding then fail
    checkName w
    bumpName
  | none => fail

/-- Any word, taken as a name. -/
def anyName : Rule Unit := do
  if ← atAnyWord then bumpName else fail

/-- A string. -/
def stringLiteral : Rule Unit := do
  match ← token with
  | .string => bump
  | _ => fail

/-- A name that another module sees: a word or a string. -/
def exportedName : Rule Unit := do
  if (← token) == .string then bump else anyName

/-! ### Names of properties -/

/-- Whether a property name that is not computed is next. -/
def atPlainProperty : Rule Bool := do
  match ← token with
  | .word .. | .string | .number | .bigint | .privateName => return true
  | _ => return false

/-- A property name, as far as the grammar asks. -/
inductive PropertyName where
  | word (name : Text)
  | privateWord (name : Text)
  | quoted (content : Text)
  | other
deriving DecidableEq, Repr

/-- The name of a property: a word, a string, a number or an expression in brackets. -/
def propertyName : Rule PropertyName := do
  let st ← here
  match st.current.token with
  | .word .. =>
    bumpName
    return .word st.current.name
  | .privateName =>
    bump
    return .privateWord st.current.name
  | .string =>
    bump
    return .quoted st.current.name
  | .number | .bigint =>
    bump
    return .other
  | .punct .openBracket =>
    bump
    within ({ · with allowIn := true }) (skip (.assignment true))
    expect .closeBracket
    return .other
  | _ => fail

end Rule

/-! ### Modifiers -/

/-- Whether the word says who may use a member. -/
def Word.isAccessibility (w : Word) : Bool := w == «private» || w == «protected» || w == «public»

namespace Rule

/-- Whether what is next can be modified: a name, a bracket, a brace, an asterisk or dots. -/
def canFollowModifier : Rule Bool := do
  match ← token with
  | .punct .openBracket | .punct .openBrace | .punct .star | .punct .ellipsis => return true
  | _ => atPlainProperty

/-- Whether the word that is next modifies what comes after it. -/
def modifies (w : Word) : Rule Bool :=
  afterNext do
    if w == .static then canFollowModifier
    else return !(← afterLineEnd) && (← canFollowModifier)

/-- The modifiers that are next, out of those allowed. One that comes twice, and a second one that
says who may use a member, is a violation. -/
def modifiers (allowed : List Word) : Rule (List Word) :=
  loop (fun (read : List Word) => do
    match ← word? with
    | none => return .inr read.reverse
    | some w =>
      if !allowed.contains w then return .inr read.reverse
      if w == .static then
        if read.contains .static || (← afterNext (atPunct .openBrace)) then
          return .inr read.reverse
      if !(← modifies w) then return .inr read.reverse
      noteIf (read.contains w || (w.isAccessibility && read.any Word.isAccessibility))
      bump
      return .inl (w :: read)) []

/-- Decorators, and whether there are any. -/
def decorators : Rule Bool := do
  if !(← atPunct .at) then return false
  repeatWhile do
    if !(← eat .at) then return false
    within ({ · with inDecorator := true }) (skip .leftHand)
    return true
  return true

end Rule

end OneFile.Script
