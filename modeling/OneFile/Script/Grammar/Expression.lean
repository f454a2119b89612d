import OneFile.Script.Grammar.Function

/-!
# Expressions

Expressions from the inside out: primary expressions, members and calls, operators, assignments.
Binary operators are read by how tightly they bind.

## Main definitions

* `OneFile.Script.Rule.primaryExpression`
* `OneFile.Script.Rule.leftHandExpression`
* `OneFile.Script.Token.level?` — how tightly a binary operator binds.
* `OneFile.Script.Rule.binaryExpression`
* `OneFile.Script.Rule.assignmentExpression`, `OneFile.Script.Rule.sequenceExpression`
-/

namespace OneFile.Script

/-! ### Operators -/

/-- How tightly a binary operator binds; `none` for what is no binary operator. -/
def Token.level? : Token → Option Nat
  | .punct p =>
    match p with
    | .nullish => some 1
    | .or => some 2
    | .and => some 3
    | .bitOr => some 4
    | .bitXor => some 5
    | .bitAnd => some 6
    | .eqEq | .notEq | .eqEqEq | .notEqEq => some 7
    | .less | .greater | .lessEq | .greaterEq => some 8
    | .shiftLeft | .shiftRight | .shiftRightZero => some 9
    | .plus | .minus => some 10
    | .star | .slash | .percent => some 11
    | .power => some 12
    | _ => none
  | .word w _ =>
    match w with
    | .instanceof | .in | .as | .satisfies => some 8
    | _ => none
  | _ => none

/-- Whether the punctuator assigns. -/
def Punct.assigns (p : Punct) : Bool :=
  [eq, plusEq, minusEq, starEq, slashEq, percentEq, powerEq, shiftLeftEq, shiftRightEq,
    shiftRightZeroEq, bitAndEq, bitOrEq, bitXorEq, andEq, orEq, nullishEq].contains p

namespace Rule

/-- Takes a greater sign as the longest operator that it starts. -/
def joinGreater : Rule Unit := retake .greater

/-- Whether a binary operator is next. -/
def atBinaryOperator : Rule Bool := do
  if (← atWord .in) && !(← setting).allowIn then return false
  return (← token).level?.isSome

/-- Whether an assignment operator is next. -/
def atAssignmentOperator : Rule Bool := do
  match ← token with
  | .punct p => return p.assigns
  | _ => return false

/-- Whether an operator that comes before its operand is next. -/
def atUnaryOperator : Rule Bool := do
  match ← token with
  | .punct .plus | .punct .minus | .punct .not | .punct .tilde => return true
  | .word .typeof _ | .word .void _ | .word .delete _ => return true
  | _ => return false

/-- Whether an increment or decrement is next. -/
def atUpdateOperator : Rule Bool := return (← atPunct .increment) || (← atPunct .decrement)

/-! ### Primary expressions -/

/-- An expression, perhaps spread. -/
def item : Rule Shape := do
  if ← eat .ellipsis then return .spread (← goal (.assignment true))
  else goal (.assignment true)

/-- An item of an array; it may be missing. -/
def arrayItem : Rule Shape := do
  if ← atPunct .comma then return .hole else item

/-- An array. -/
def arrayLiteral : Rule Shape := do
  bump
  let (items, trailingComma) ←
    within ({ · with allowIn := true }) (commaList .closeBracket arrayItem)
  expect .closeBracket
  return .array items trailingComma

/-- A method, from its name on, that reads or sets a property: what reads has no parameter, and
what sets has one. -/
def accessorRest (reads bodyless : Bool) : Rule Unit := do
  let ⟨parameters, _⟩ ← functionRest false false bodyless
  noteIf (parameters.rest || parameters.count != (if reads then 0 else 1))

/-- A member of an object. -/
def objectMember : Rule Shape := do
  if ← atPunct .ellipsis then item
  else
    let isAsync := (← modifiers [.async]).contains .async
    if (← atWord .get) && (← afterNext canFollowModifier) then
      bump
      let _ ← propertyName
      accessorRest true false
      return .other
    if (← atWord .set) && (← afterNext canFollowModifier) then
      bump
      let _ ← propertyName
      accessorRest false false
      return .other
    let isGenerator ← eat .star
    let start ← start
    let name ← word?
    let _ ← propertyName
    if isGenerator || (← atPunct .openParen) || (← atPunct .less) then
      let _ ← functionRest isAsync isGenerator false
      return .other
    noteIf isAsync
    if name.any Word.isBinding && !(← atPunct .colon) then
      checkName (name.getD .plain)
      if ← initializer then
        noteDefaults (start :: ·)
        return .shorthand (some start)
      else return .shorthand none
    else
      expect .colon
      return .member (← goal (.assignment true))

/-- An object. -/
def objectLiteral : Rule Shape := do
  bump
  let (members, trailingComma) ←
    within ({ · with allowIn := true }) (commaList .closeBrace objectMember)
  expect .closeBrace
  return .object members trailingComma

/-- An expression in parentheses. -/
def parenthesizedExpression : Rule Shape := do
  bump
  let (items, trailingComma) ←
    within ({ · with allowIn := true, inDecorator := false })
      (commaList .closeParen (goal (.assignment true)))
  expect .closeParen
  match items, trailingComma with
  | [], _ | _, true => fail
  | [inner], false => return .parenthesized inner
  | _, false => return .parenthesized .other

/-- An expression within a template string. -/
def templateItem : Rule Unit := within ({ · with allowIn := true }) (skip .expression)

/-- The regular expression that starts with the slash that is next. -/
def regularExpression : Rule Shape := do
  retake .regex
  if (← token) != .regex then fail
  bump
  return .other

/-- Arguments in parentheses. -/
def arguments : Rule Unit := do
  expect .openParen
  let _ ← within ({ · with allowIn := true, inDecorator := false }) (commaList .closeParen item)
  expect .closeParen

/-- The arguments of a dynamic import: a module and perhaps options. -/
def importArguments : Rule Unit := do
  expect .openParen
  let (items, _) ← within ({ · with allowIn := true })
    (commaList .closeParen (goal (.assignment true)))
  expect .closeParen
  if items.isEmpty || 2 < items.length then fail

/-- An expression that starts with `import`: a dynamic import, or what the module knows of
itself. -/
def importExpression : Rule Shape := do
  bump
  if ← eat .dot then
    if ← eatWord .meta then return .other
    if !(← either (eatWord .source) (eatWord .defer)) then fail
  importArguments
  return .importCall

/-! ### Members and calls -/

/-- Whether what is next can start an expression. -/
def startsExpression : Rule Bool := do
  match ← token with
  | .punct p =>
    return [Punct.openParen, .openBracket, .openBrace, .slash, .slashEq, .plus, .minus, .tilde,
      .not, .increment, .decrement, .less, .at].contains p
  | .word w _ =>
    if w == .import then
      return ← afterNext do return (← atPunct .openParen) || (← atPunct .less) || (← atPunct .dot)
    return w.isBinding || [Word.this, .super, .null, .true, .false, .function, .class, .new,
      .delete, .typeof, .void].contains w
  | .number | .bigint | .string | .template .. | .privateName => return true
  | _ => return false

/-- Whether type arguments in an expression may end before what is next. -/
def endsTypeArguments : Rule Bool := do
  match ← token with
  | .punct .openParen | .template .. => return true
  | .punct .less | .punct .greater | .punct .plus | .punct .minus => return false
  | _ => return (← afterLineEnd) || (← atBinaryOperator) || !(← startsExpression)

/-- Type arguments in an expression, where they could be two comparisons as well. -/
def callTypeArguments : Rule Unit := do
  splitShift
  expect .less
  let (types, _) ← commaList .greater (skip .type)
  noteIf types.isEmpty
  if (← here).after.rest.head? == some '=' then fail
  expect .greater
  if !(← endsTypeArguments) then fail

/-- The name of a property after a dot. -/
def dottedName : Rule Unit := do
  if (← token) == .privateName then bump else anyName

/-- A property in brackets. -/
def bracketedName : Rule Unit := do
  expect .openBracket
  within ({ · with allowIn := true }) (skip .expression)
  expect .closeBracket

/-- An expression that others are read from, and whether it has an optional link. -/
structure Operand where
  shape : Shape
  chained : Bool

/-- Whether a property comes after an optional link. -/
def linksProperty : Rule Bool :=
  afterNext do
    match ← token with
    | .punct .openBracket => return !(← setting).inDecorator
    | .word .. | .privateName => return true
    | _ => return false

/-- A property, template, assertion or list of type arguments that goes on with the operand. -/
def memberStep (o : Operand) : Rule (Option Operand) := do
  let property (chained : Bool) : Operand := ⟨if chained then .other else .property, chained⟩
  match ← token with
  | .punct .dot =>
    bump
    dottedName
    return some (property o.chained)
  | .punct .openBracket =>
    if (← setting).inDecorator then return none
    bracketedName
    return some (property o.chained)
  | .punct .optionalDot =>
    if !(← linksProperty) then return none
    bump
    if ← atPunct .openBracket then bracketedName else dottedName
    return some (property true)
  | .template .. =>
    noteIf o.chained
    let _ ← templateRest templateItem true
    return some ⟨.other, o.chained⟩
  | .punct .not =>
    if ← afterLineEnd then return none
    bump
    return some ⟨.asserted o.shape, o.chained⟩
  | .punct .less | .punct .shiftLeft =>
    match ← attempt callTypeArguments with
    | some () => return some ⟨.instantiated o.shape, o.chained⟩
    | none => return none
  | _ => return none

/-- All that goes on with the operand before a call. -/
def memberRest (o : Operand) : Rule Operand :=
  loop (fun (o : Operand) => do
    match ← memberStep o with
    | some o' => return .inl o'
    | none => return .inr o) o

/-- The calls that go on with the operand, and what follows each of them. -/
def callRest (o : Operand) : Rule Operand :=
  loop (fun (o : Operand) => do
    let o ← memberRest o
    if ← eat .optionalDot then
      let typed ← attempt callTypeArguments
      match ← token with
      | .template .. =>
        note
        let _ ← templateRest templateItem true
      | _ =>
        if typed.isSome || (← atPunct .openParen) then arguments else fail
      return .inl ⟨.other, true⟩
    else if ← atPunct .openParen then
      arguments
      return .inl ⟨.other, o.chained⟩
    else return .inr o) o

/-- An expression that can stand before an assignment operator. -/
def leftHandExpression : Rule Shape := do
  let o ← callRest ⟨← goal .primary, false⟩
  return if o.chained then .other else o.shape

/-- A new object. Its constructor is no call, and is not reached through an optional link. -/
def newExpression : Rule Shape := do
  bump
  if ← eat .dot then
    expectWord .target
    return .other
  let constructor ← goal .primary
  noteIf (constructor matches .importCall)
  let o ← memberRest ⟨constructor, false⟩
  if ← atPunct .openParen then arguments
  noteIf o.chained
  return .other

/-- The receiver's parent, of which a property is read or which is called. -/
def superExpression : Rule Shape := do
  bump
  match ← token with
  | .punct .dot | .punct .openBracket | .punct .openParen => pure ()
  | _ => note
  return .other

/-! ### Operators -/

/-- Whether the word that is next waits for a value. -/
def atAwait : Rule Bool := do
  return (← atWord .await) && (← setting).inAsync

/-- Takes an operand of an increment or decrement. -/
def updateTarget (s : Shape) : Rule Shape := do
  simpleTarget s
  return .other

/-- An expression with an operator before it or after it, or none. -/
def unaryExpression : Rule Shape := do
  if ← atUnaryOperator then
    bump
    skip .unary
    return .prefixed
  else if ← atAwait then
    bump
    within ({ · with inAsync := true }) (skip .unary)
    return .prefixed
  else if ← atUpdateOperator then
    bump
    updateTarget (← goal .unary)
  else if ← atPunct .less then goal (.tag false)
  else
    let operand ← goal .leftHand
    if !(← afterLineEnd) && (← atUpdateOperator) then
      bump
      updateTarget operand
    else return operand

/-- Whether the shape is that of an `and` or `or`. -/
def isLogical (s : Shape) : Bool := s matches .logical

/-- The expression that the operator `op` makes of two operands. Coalescing does not mix with
other logical operators, and a power has no operator before its base. -/
def combine (op : Token) (leftInParens rightInParens : Bool) (left right : Shape) : Rule Shape := do
  match op with
  | .punct .nullish =>
    noteIf (isLogical right && !rightInParens || isLogical left && !leftInParens)
    return .coalescing
  | .punct .and | .punct .or =>
    return .logical
  | .punct .power =>
    noteIf (left matches .prefixed)
    return .other
  | _ => return .other

/-- The operators that go on with an operand, as far as they bind more tightly than `above`. -/
def binaryRest (above : Nat) (leftInParens : Bool) (left : Shape) : Rule Shape :=
  loop (fun (left : Shape) => do
    joinGreater
    let op ← token
    match op.level? with
    | none => return .inr left
    | some level =>
      let binds := if level == 12 then above ≤ level else above < level
      if !binds || !(← atBinaryOperator) then return .inr left
      if (← atWord .as) || (← atWord .satisfies) then
        if ← afterLineEnd then return .inr left
        bump
        skip .type
        return .inl (.asserted left)
      bump
      let rightInParens ← atPunct .openParen
      let right ← goal (.binary level)
      return .inl (← combine op leftInParens rightInParens left right)) left

/-- An expression of binary operators that bind more tightly than `above`. -/
def binaryExpression (above : Nat) : Rule Shape := do
  let leftInParens ← atPunct .openParen
  let left ←
    if (← token) == .privateName && (← setting).allowIn then do
      bump
      expectWord .in
      skip (.binary 8)
      if 8 ≤ above then fail
      pure .other
    else goal .unary
  binaryRest above leftInParens left

/-! ### Assignments -/

/-- Whether the generator gives a value here. -/
def atYield : Rule Bool := do
  return (← atWord .yield) && (← setting).inGenerator

/-- A value that a generator gives. -/
def yieldExpression : Rule Shape := do
  bump
  if !(← afterLineEnd) then
    if ← eat .star then skip (.assignment true)
    else
      match ← token with
      | .endOfInput | .punct .semicolon | .punct .closeBrace | .punct .closeParen
      | .punct .closeBracket | .punct .colon | .punct .comma | .word .in _ => pure ()
      | _ => skip (.assignment true)
  return .other

/-- The rest of a conditional expression after its condition. -/
def conditionalRest (arrowType : Bool) (condition : Shape) : Rule Shape := do
  if !(← eat .question) then return condition
  within ({ · with allowIn := true, inDecorator := false }) (skip (.assignment false))
  expect .colon
  skip (.assignment arrowType)
  return .other

/-- An expression without commas. -/
def assignmentExpression (arrowType : Bool) : Rule Shape := do
  if ← atYield then return ← yieldExpression
  if let some s ← arrowFunction? arrowType then return s
  if let some s ← asyncArrowFunction? arrowType then return s
  let left ← goal (.binary 0)
  if (left matches .name) && (← atPunct .arrow) then
    arrow
    arrowBody false arrowType
  else if ← atAssignmentOperator then
    let plain ← atPunct .eq
    if plain then target left else simpleTarget left
    bump
    skip (.assignment arrowType)
    return .assignment plain
  else conditionalRest arrowType left

/-- An expression. -/
def sequenceExpression : Rule Shape := do
  within ({ · with inDecorator := false }) do
    let first ← goal (.assignment true)
    if !(← atPunct .comma) then return first
    repeatWhile do
      if !(← eat .comma) then return false
      skip (.assignment true)
      return true
    return .other

end Rule

end OneFile.Script
