import OneFile.Script.Grammar.Name

/-!
# Targets

What values are bound or assigned to. A declaration has a binding pattern of its own grammar. The
target of an assignment is read as an expression first, and only then found to be a target or not.

## Main definitions

* `OneFile.Script.Shape.isTarget` — whether an expression can be assigned to.
* `OneFile.Script.Rule.target`, `OneFile.Script.Rule.simpleTarget`
* `OneFile.Script.Rule.bindingPattern` — the target of a declaration.
* `OneFile.Script.Rule.parameters` — the parameters of a function.
-/

namespace OneFile.Script

namespace Shape

/-! ### Targets of assignments -/

/-- Whether the expression is a name or a property, perhaps with a type asserted. -/
def isSimpleTarget : Shape → Bool
  | .name | .property => true
  | .parenthesized inner => isSimpleTarget inner
  | .asserted inner => isSimpleTarget inner
  | _ => false

mutual

/-- Whether the expression can be assigned to by a plain assignment. -/
def isTarget : Shape → Bool
  | .array items trailingComma => areItems trailingComma items
  | .object members trailingComma => areMembers trailingComma members
  | s => isSimpleTarget s

/-- Whether the expression can be assigned to, or is a target with a default. -/
def isTargetOrDefault : Shape → Bool
  | .assignment plain => plain
  | .array items trailingComma => areItems trailingComma items
  | .object members trailingComma => areMembers trailingComma members
  | s => isSimpleTarget s

/-- Whether the items of an array can all be assigned to. Only the last one can take the rest. -/
def areItems (trailingComma : Bool) : List Shape → Bool
  | [] => true
  | .spread inner :: items => items.isEmpty && !trailingComma && isTarget inner
  | .hole :: items => areItems trailingComma items
  | item :: items => isTargetOrDefault item && areItems trailingComma items

/-- Whether the members of an object can all be assigned to. -/
def areMembers (trailingComma : Bool) : List Shape → Bool
  | [] => true
  | .spread inner :: members => members.isEmpty && !trailingComma && isTarget inner
  | .shorthand _ :: members => areMembers trailingComma members
  | .member value :: members => isTargetOrDefault value && areMembers trailingComma members
  | _ :: _ => false

end

mutual

/-- The defaults of members within a pattern. -/
def defaults : Shape → List Nat
  | .array items _ => defaultsOf items
  | .object members _ => defaultsOf members
  | .spread inner => defaults inner
  | .member value => defaults value
  | .shorthand (some start) => [start]
  | _ => []

/-- The defaults of members within patterns, in their order. -/
def defaultsOf : List Shape → List Nat
  | [] => []
  | s :: ss => defaults s ++ defaultsOf ss

end

end Shape

namespace Rule

/-- Takes an expression as the target of an assignment by any operator. -/
def simpleTarget (s : Shape) : Rule Unit := if s.isSimpleTarget then pure () else fail

/-- Takes an expression as the target of a plain assignment, whose defaults are then in order. -/
def target (s : Shape) : Rule Unit :=
  if s.isTarget then noteDefaults (·.filter fun d => !s.defaults.contains d) else fail

/-! ### Targets of declarations -/

/-- A default value, if there is one. -/
def initializer : Rule Bool := do
  if ← eat .eq then
    within ({ · with allowIn := true }) (skip (.assignment true))
    return true
  else return false

/-- A colon and a type, if there is a colon. -/
def typeAnnotation : Rule Bool := do
  if ← eat .colon then
    skip .type
    return true
  else return false

/-- Items of a pattern up to `close`, which is read too: how many come before the one that takes
the rest, which is the last, and whether there is such a one. -/
def patternItems (close : Punct) (item rest : Rule Unit) : Rule (Nat × Bool) := do
  let read ← loop (fun (n : Nat) => do
    if ← atListEnd close then return .inr (n, false)
    if ← eat .ellipsis then
      rest
      noteIf (← eat .comma)
      return .inr (n, true)
    item
    if ← atListEnd close then return .inr (n + 1, false)
    expect .comma
    return .inl (n + 1)) 0
  expect close
  return read

/-- A pattern and its default. -/
def bindingItem : Rule Unit := do
  skip .binding
  let _ ← initializer

/-- A member of an object pattern: a name, or a property name and a pattern. -/
def bindingMember : Rule Unit := do
  let binds ← atBinding
  let w ← word?
  let _ ← propertyName
  if ← eat .colon then bindingItem
  else if binds then
    checkName (w.getD .plain)
    let _ ← initializer
  else fail

/-- The target of a declaration: a name, an array pattern or an object pattern. -/
def bindingPattern : Rule Shape := do
  if ← eat .openBracket then
    let item : Rule Unit := do
      if !(← atPunct .comma) then bindingItem
    let _ ← patternItems .closeBracket item (skip .binding)
    return .array [] false
  else if ← eat .openBrace then
    let _ ← patternItems .closeBrace bindingMember (skip .binding)
    return .object [] false
  else
    bindingName
    return .name

/-! ### Parameters -/

/-- The modifiers of a parameter, which make it a property of the object under construction. -/
def parameterModifiers : List Word := [.private, .protected, .public, .readonly, .override]

/-- A parameter that takes all further arguments. -/
def restParameter : Rule Unit := do
  skip .binding
  noteIf (← eat .question)
  let _ ← typeAnnotation
  noteIf (← initializer)

/-- A parameter, with the decorators before it. -/
def parameter : Rule Unit := do
  let _ ← decorators
  if ← eat .ellipsis then restParameter
  else
    let _ ← modifiers parameterModifiers
    skip .binding
    let _ ← eat .question
    let _ ← typeAnnotation
    let _ ← initializer

/-- A parameter for the receiver, which only has a type. -/
def receiverParameter : Rule Bool := do
  if ← eatWord .this then
    let _ ← typeAnnotation
    if !(← atPunct .closeParen) then expect .comma
    return true
  else return false

/-- The parameters of a function, as far as the grammar asks. -/
structure Parameters where
  /-- Whether the receiver has a type. -/
  receiver : Bool
  /-- How many parameters take one argument. -/
  count : Nat
  /-- Whether one takes all further arguments. -/
  rest : Bool

/-- The parameters of a function in parentheses. -/
def parameters : Rule Parameters := do
  expect .openParen
  within ({ · with allowIn := true }) do
    let receiver ← receiverParameter
    let (count, rest) ← patternItems .closeParen parameter restParameter
    return ⟨receiver, count, rest⟩

end Rule

end OneFile.Script
