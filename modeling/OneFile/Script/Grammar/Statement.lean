import OneFile.Script.Grammar.Declaration

/-!
# Statements

## Main definitions

* `OneFile.Script.Rule.anyStatement`
-/

namespace OneFile.Script.Rule

/-! ### Parts of statements -/

/-- A statement within another one. -/
def body : Rule Unit := skip (.statement true)

/-- Statements in braces. -/
def block : Rule Unit := do
  expect .openBrace
  blockOf .closeBrace (skip (.statement false))

/-- An expression in parentheses that a statement depends on. -/
def condition : Rule Unit := do
  expect .openParen
  within ({ · with allowIn := true }) (skip .expression)
  expect .closeParen

/-- Variables that must not stand alone in the place of a statement. -/
def lexicalStatement (alone isConst isUsing : Bool) : Rule Unit := do
  variableStatement isConst isUsing
  noteIf alone

/-! ### Loops -/

/-- The rest of a loop with up to three expressions, after the first one. -/
def countedLoopRest (isAwait lacksValue : Bool) : Rule Unit := do
  expect .semicolon
  noteIf (lacksValue && !(← setting).ambient)
  if !(← atPunct .semicolon) && !(← atPunct .closeParen) then skip .expression
  expect .semicolon
  if !(← atPunct .closeParen) then skip .expression
  expect .closeParen
  noteIf isAwait
  body

/-- The rest of a loop over the keys or values of an object, from the word before it on. -/
def iterationRest (isAwait : Bool) : Rule Unit := do
  if ← eatWord .in then
    if isAwait then fail
    skip .expression
  else
    expectWord .of
    skip (.assignment true)
  expect .closeParen
  body

/-- Whether a loop over keys or values goes on here. -/
def atIteration : Rule Bool := return (← atWord .in) || (← atWord .of)

/-- A loop that starts with variables. -/
def variableLoop (isAwait isConst isUsing : Bool) : Rule Unit := do
  bump
  let lacks ← within ({ · with allowIn := false }) (bindings isConst isUsing)
  if ← atIteration then iterationRest isAwait else countedLoopRest isAwait lacks

/-- Whether `let` is next and declares the variable of a loop. -/
def atLoopLet : Rule Bool := do
  if !(← atWord .let) then return false
  afterNext do
    return (← atPunct .openBrace) || (← atPunct .openBracket)
      || (← word?).any fun w => w != .in

/-- A loop. -/
def forStatement : Rule Unit := do
  bump
  let isAwait ← eatWord .await
  noteIf (isAwait && !(← setting).inAsync)
  expect .openParen
  if ← atPunct .semicolon then countedLoopRest isAwait false
  else if ← atWord .const then variableLoop isAwait true false
  else if (← atWord .var) || (← atLoopLet) then variableLoop isAwait false false
  else if ← atUsing then
    let _ ← eatWord .await
    variableLoop isAwait false true
  else
    let startsAsync ← do
      if ← atWord .async then afterNext (atWord .of) else pure false
    let startsLet ← atWord .let
    let s ← within ({ · with allowIn := false }) (goal .expression)
    if ← atIteration then
      let isOf ← atWord .of
      noteIf (isOf && (startsLet || startsAsync && !isAwait))
      target s
      iterationRest isAwait
    else countedLoopRest isAwait false

/-! ### Statements -/

/-- The cases of a choice. -/
def switchCase : Rule Unit := do
  if ← eatWord .case then skip .expression else expectWord .default
  expect .colon
  repeatWhile do
    if (← atWord .case) || (← atWord .default) || (← atListEnd .closeBrace) then return false
    skip (.statement false)
    return true

/-- Statements that may fail, and what is done then. -/
def tryStatement : Rule Unit := do
  bump
  block
  let catches ← eatWord .catch
  if catches then
    if ← eat .openParen then
      skip .binding
      let _ ← typeAnnotation
      expect .closeParen
    block
  let finishes ← eatWord .finally
  if finishes then block
  noteIf (!catches && !finishes)

/-- An expression, or a label and a statement. -/
def expressionStatement : Rule Shape := do
  let s ← goal .expression
  let labels ← if s matches .name then eat .colon else pure false
  if labels then
    body
    return .other
  else
    endStatement
    return s

/-- A statement that starts with `let`: a declaration, unless what follows goes on with a name. -/
def letStatement (alone : Bool) : Rule Unit := do
  let next ← look do
    bump
    let asserts := (← atWord .as) || (← atWord .satisfies)
    return (← token, (← atAssignmentOperator) || ((← atBinaryOperator) && !asserts))
  match next with
  | none => fail
  | some (t, operates) =>
    if operates || t == .punct .dot || t == .punct .openParen then
      let _ ← expressionStatement
    else if (alone && t != .punct .openBracket) || t == .punct .semicolon then
      bindingName
      endStatement
    else
      bump
      lexicalStatement alone false false

/-- A statement that leaves a loop or starts its next round. -/
def jumpStatement : Rule Unit := do
  bump
  if !(← canEnd) then bindingName
  endStatement

/-- A class or export with decorators. -/
def decoratedStatement : Rule Unit := do
  let _ ← decorators
  if ← atWord .export then exportDeclaration
  else
    let mods ← modifiers declarationModifiers
    if !(← atWord .class) then fail
    declarationRest mods

/-- A function of its own. One that is asynchronous or a generator must not stand alone in the
place of a statement. -/
def functionStatement (alone : Bool) : Rule Unit := do
  let read ← functionFrom .declaration
  noteIf (alone && (read.isAsync || read.isGenerator))

/-- A statement that starts with a word, or else an expression. -/
def wordStatement (alone : Bool) (w : Word) : Rule Shape := do
  let unshaped (r : Rule Unit) : Rule Shape := do
    r
    return .other
  match w with
  | .if => unshaped do
    bump
    condition
    body
    if ← eatWord .else then body
  | .do => unshaped do
    bump
    body
    expectWord .while
    condition
    let _ ← eat .semicolon
  | .while | .with => unshaped do
    bump
    condition
    body
  | .for => unshaped forStatement
  | .continue | .break => unshaped jumpStatement
  | .return => unshaped do
    noteIf (!(← setting).inFunction)
    bump
    if !(← canEnd) then skip .expression
    endStatement
  | .switch => unshaped do
    bump
    condition
    expect .openBrace
    blockOf .closeBrace switchCase
  | .throw => unshaped do
    bump
    noteIf (← afterLineEnd)
    skip .expression
    endStatement
  | .try => unshaped tryStatement
  | .debugger => unshaped do
    bump
    endStatement
  | .class => unshaped do
    classFrom
    noteIf alone
  | .var => unshaped do
    bump
    variableStatement false false
  | .const => unshaped do
    bump
    if ← atWord .enum then enumDeclaration else lexicalStatement alone true false
  | .export => unshaped exportDeclaration
  | .import =>
    if ← afterNext do return (← atPunct .openParen) || (← atPunct .dot) then expressionStatement
    else importDeclaration
  | .let =>
    if (← token) == .word .let false then unshaped (letStatement alone) else expressionStatement
  | _ =>
    if ← atFunction then unshaped (functionStatement alone)
    else if ← atUsing then unshaped do
      let _ ← eatWord .await
      bump
      lexicalStatement alone false true
    else if w != .async && (← atTypedDeclaration) then unshaped typedDeclaration
    else expressionStatement

/-- A statement; `alone` when it is the body of another one. -/
def anyStatement (alone : Bool) : Rule Shape := do
  match ← token with
  | .punct .openBrace =>
    block
    return .other
  | .punct .semicolon =>
    bump
    return .other
  | .punct .at =>
    decoratedStatement
    return .other
  | .word w _ => wordStatement alone w
  | _ => expressionStatement

end OneFile.Script.Rule
