import OneFile.Script.Grammar.Expression

/-!
# Classes

## Main definitions

* `OneFile.Script.Rule.classFrom` — a class from its keyword on.
* `OneFile.Script.Rule.classMember`
-/

namespace OneFile.Script.Rule

/-! ### What a class extends and implements -/

/-- What comes before the members of a class: the class it extends, and the interfaces it
implements. -/
def heritage : Rule Unit := do
  let _ ← loop (fun (seen : Bool × Bool) => do
    let (extended, implemented) := seen
    if ← eatWord .extends then
      noteIf (extended || implemented)
      repeatWhile do
        skip .leftHand
        let _ ← typeArguments
        if !(← eat .comma) then return false
        note
        return true
      return .inl (true, implemented)
    else if ← eatWord .implements then
      noteIf implemented
      repeatWhile do
        typeReference
        eat .comma
      return .inl (extended, true)
    else return .inr seen) (false, false)

/-! ### Members -/

/-- The modifiers of a member. -/
def memberModifiers : List Word :=
  [.abstract, .accessor, .async, .declare, .private, .protected, .public, .readonly, .static,
    .override]

/-- The text of a constructor's name. -/
def constructorName : Text := "constructor".toList

/-- Whether the name is the one of the constructor. -/
def PropertyName.isConstructor : PropertyName → Bool
  | .word name | .quoted name => name == constructorName
  | _ => false

/-- Whether the name is the one of a class's prototype. -/
def PropertyName.isPrototype : PropertyName → Bool
  | .word name | .quoted name => name == "prototype".toList
  | _ => false

/-- The name of a member, which may not clash with what every class has. -/
def memberName (mods : List Word) : Rule PropertyName := do
  let name ← propertyName
  noteIf (mods.contains .static && name.isPrototype)
  match name with
  | .privateWord text =>
    noteIf (text == constructorName || mods.any Word.isAccessibility)
  | _ => pure ()
  return name

/-- A block that is run when the class is made. -/
def staticBlock : Rule Unit := do
  expectWord .static
  expect .openBrace
  within ({ · with inAsync := true, inGenerator := false, inFunction := false })
    (blockOf .closeBrace (skip (.statement false)))

/-- A member that reads or sets a property. -/
def accessorMember (reads : Bool) (mods : List Word) : Rule Unit := do
  bump
  let name ← memberName mods
  noteIf (!mods.contains .static && name.isConstructor)
  noteIf ([Word.async, .readonly, .accessor, .declare].any mods.contains)
  accessorRest reads true

/-- A method, from its parameters on. -/
def methodRest (mods : List Word) (isGenerator : Bool) (name : PropertyName) : Rule Unit := do
  noteIf ([Word.readonly, .accessor, .declare].any mods.contains)
  noteIf (!mods.contains .static && name.isConstructor
    && (isGenerator || mods.contains .async))
  let _ ← functionRest (mods.contains .async) isGenerator true

/-- A field, from its mark or type on. -/
def fieldRest (mods : List Word) (optional : Bool) (name : PropertyName) : Rule Unit := do
  let definite ← eat .not
  noteIf (optional && definite)
  let _ ← typeAnnotation
  if ← eat .eq then
    within ({ · with allowIn := true, inAsync := false, inGenerator := false })
      (skip (.assignment true))
  endStatement
  noteIf (name.isConstructor || mods.contains .async)

/-- A member of a class. -/
def classMember : Rule Unit := do
  if ← eat .semicolon then return ()
  let _ ← decorators
  let mods ← modifiers memberModifiers
  if (← atWord .static) && (← afterNext (atPunct .openBrace)) then
    noteIf !mods.isEmpty
    staticBlock
  else if (← atWord .get) && (← afterNext canFollowModifier) then accessorMember true mods
  else if (← atWord .set) && (← afterNext canFollowModifier) then accessorMember false mods
  else if ← atIndexSignature then
    noteIf (mods.any fun w => w != .readonly && w != .static)
    indexSignature
  else
    let isGenerator ← eat .star
    let name ← memberName mods
    let optional ← eat .question
    if isGenerator || (← atPunct .openParen) || (← atPunct .less) then
      methodRest mods isGenerator name
    else fieldRest mods optional name

/-! ### Classes -/

/-- A class from its keyword on. -/
def classFrom : Rule Unit := do
  expectWord .class
  if (← atBinding) && !(← atWord .implements) then bindingName
  let _ ← typeParameters
  heritage
  expect .openBrace
  within ({ · with allowIn := true }) (blockOf .closeBrace classMember)

/-- A class that is part of an expression, with its decorators. -/
def classExpression : Rule Shape := do
  let _ ← decorators
  classFrom
  return .other

/-- An expression that no operator or bracket goes on with. -/
def primaryExpression : Rule Shape := do
  match ← token with
  | .number | .bigint =>
    bump
    return .other
  | .string =>
    bump
    return .string
  | .template .. =>
    noteIf (!(← templateRest templateItem true))
    return .other
  | .punct p =>
    match p with
    | .openBracket => arrayLiteral
    | .openBrace => objectLiteral
    | .openParen => parenthesizedExpression
    | .slash | .slashEq => regularExpression
    | .at => classExpression
    | _ => fail
  | .word w _ =>
    match w with
    | .this | .null | .true | .false =>
      bump
      return .other
    | .super => superExpression
    | .new => newExpression
    | .import => importExpression
    | .class => classExpression
    | _ =>
      if ← atFunction then
        let _ ← functionFrom .expression
        return .other
      bindingName
      return .name
  | _ => fail

end OneFile.Script.Rule
