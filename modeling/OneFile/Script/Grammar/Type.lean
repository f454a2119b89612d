import OneFile.Script.Grammar.Pattern

/-!
# Types

Type annotations: what can follow a colon, stand between angle brackets or be given a name.

## Main definitions

* `OneFile.Script.Rule.typeArguments`, `OneFile.Script.Rule.typeParameters`
* `OneFile.Script.Rule.typeMember` — a member of an object type or interface.
* `OneFile.Script.Rule.anyType` — a type.
-/

namespace OneFile.Script.Rule

/-! ### Lists of types -/

/-- Takes a shift operator as two angle brackets. -/
def splitShift : Rule Unit := retake .openAngle

/-- Type arguments, if there are any here. -/
def typeArguments : Rule Bool := do
  splitShift
  if !(← eat .less) then return false
  let (types, _) ← commaList .greater (skip .type)
  noteIf types.isEmpty
  expect .greater
  return true

/-- A type parameter, with what it extends and its default. -/
def typeParameter : Rule Unit := do
  let _ ← modifiers [.const, .in, .out]
  bindingName
  if ← eatWord .extends then skip .type
  if ← eat .eq then skip .type

/-- Type parameters, if there are any here. -/
def typeParameters : Rule Bool := do
  if !(← eat .less) then return false
  let (read, _) ← commaList .greater typeParameter
  noteIf read.isEmpty
  expect .greater
  return true

/-! ### Names of types -/

/-- Words with dots between them, after the first one. -/
def qualifiedRest : Rule Unit :=
  repeatWhile do
    if !(← eat .dot) then return false
    if (← token) == .privateName then bump else anyName
    return true

/-- A type that is named, and its arguments. Any word can name a type. -/
def typeReference : Rule Unit := do
  anyName
  qualifiedRest
  if !(← afterLineEnd) then
    let _ ← typeArguments

/-! ### Results -/

/-- A type, or a condition that a parameter has a type. -/
def typeOrCondition : Rule Unit := do
  let condition ← ahead do
    if !(← atBinding) then return false
    bumpName
    return !(← afterLineEnd) && (← atWord .is)
  if condition then
    bumpName
    bump
  skip .type

/-- A colon and a result type, if there is a colon. -/
def resultType : Rule Bool := do
  if ← eat .colon then
    within ({ · with conditionalTypes := true }) typeOrCondition
    return true
  else return false

/-! ### Function types -/

/-- Parameters and a result after an arrow. -/
def functionTypeRest : Rule Unit := do
  let _ ← typeParameters
  let _ ← parameters
  expect .arrow
  typeOrCondition

/-- The start of a parameter, as far as it tells parameters from a type in parentheses. -/
def parameterStart : Rule Bool := do
  let _ ← modifiers parameterModifiers
  if (← atBinding) || (← atWord .this) then
    bumpName
    return true
  else if (← atPunct .openBracket) || (← atPunct .openBrace) then
    let before ← here
    skip .binding
    return before.flawed || !(← here).flawed
  else return false

/-- Whether the parenthesis that is next opens the parameters of a function type. -/
def opensParameters : Rule Bool :=
  afterNext do
    match ← token with
    | .punct .closeParen | .punct .ellipsis => return true
    | _ =>
      if !(← parameterStart) then return false
      match ← token with
      | .punct .colon | .punct .comma | .punct .question | .punct .eq => return true
      | .punct .closeParen =>
        bump
        atPunct .arrow
      | _ => return false

/-- Whether a function type or a constructor type is next. -/
def atFunctionType : Rule Bool := do
  match ← token with
  | .punct .less => return true
  | .punct .openParen => opensParameters
  | .word .new _ => return true
  | .word .abstract _ => afterNext (atWord .new)
  | _ => return false

/-- A function type or a constructor type. -/
def functionType : Rule Unit := do
  let _ ← eatWord .abstract
  let _ ← eatWord .new
  functionTypeRest

/-! ### Members -/

/-- The end of a member: a comma, a semicolon or a place that needs none. -/
def endMember : Rule Unit := do
  if !(← eat .comma) then endStatement

/-- Parameters and a result after a colon. -/
def signature : Rule Parameters := do
  let _ ← typeParameters
  let read ← parameters
  let _ ← resultType
  return read

/-- Parameters and a result that nothing is asked about. -/
def signatureRest : Rule Unit := do
  let _ ← signature

/-- Whether the bracket that is next opens an index signature. -/
def atIndexSignature : Rule Bool := do
  if !(← atPunct .openBracket) then return false
  afterNext do
    match ← token with
    | .punct .ellipsis | .punct .closeBracket => return true
    | _ =>
      if ((← word?).any Word.isAccessibility || (← atWord .readonly) || (← atWord .static))
          && (← afterNext atBinding) then
        return true
      if !(← atBinding) then return false
      bumpName
      match ← token with
      | .punct .colon | .punct .comma => return true
      | .punct .question =>
        bump
        match ← token with
        | .punct .colon | .punct .comma | .punct .closeBracket => return true
        | _ => return false
      | _ => return false

/-- An index signature. -/
def indexSignature : Rule Unit := do
  expect .openBracket
  let (read, _) ← commaList .closeBracket do
    bindingName
    noteIf (!(← typeAnnotation))
  noteIf (read.length != 1)
  expect .closeBracket
  noteIf (!(← typeAnnotation))
  endMember

/-- Reads a word that modifies what comes after it, such as `get`. -/
def eatModifying (w : Word) : Rule Bool := do
  if (← atWord w) && (← afterNext canFollowModifier) then
    bump
    return true
  else return false

/-- A member of an object type. -/
def typeMember : Rule Unit := do
  if (← atPunct .openParen) || (← atPunct .less) then
    signatureRest
    endMember
  else if (← atWord .new)
      && (← afterNext do return (← atPunct .openParen) || (← atPunct .less)) then
    bump
    signatureRest
    endMember
  else
    let _ ← modifiers [.readonly]
    if ← either (eatModifying .get) (eatModifying .set) then
      let _ ← propertyName
      signatureRest
      endMember
    else if ← atIndexSignature then indexSignature
    else
      let _ ← propertyName
      let _ ← eat .question
      if (← atPunct .openParen) || (← atPunct .less) then signatureRest
      else
        let _ ← typeAnnotation
        noteIf (← initializer)
      endMember

/-- The members of an object type in braces. -/
def typeMembers : Rule Unit := do
  expect .openBrace
  blockOf .closeBrace typeMember

/-! ### Mapped types and tuples -/

/-- Whether the brace that is next opens a mapped type. -/
def atMappedType : Rule Bool :=
  afterNext do
    if (← atPunct .plus) || (← atPunct .minus) then afterNext (atWord .readonly)
    else
      let _ ← eatWord .readonly
      if !(← eat .openBracket) then return false
      if !(← atBinding) then return false
      bumpName
      atWord .in

/-- A sign before a mark, if it stands there. -/
def signedMark (mark : Rule Bool) : Rule Unit := do
  if ← either (eat .plus) (eat .minus) then
    if !(← mark) then fail
  else
    let _ ← mark

/-- A type with a member for each of a set of keys. -/
def mappedType : Rule Unit := do
  expect .openBrace
  signedMark (eatWord .readonly)
  expect .openBracket
  bindingName
  expectWord .in
  skip .type
  if ← eatWord .as then skip .type
  expect .closeBracket
  signedMark (eat .question)
  let _ ← typeAnnotation
  if !(← atPunct .closeBrace) then endStatement
  expect .closeBrace

/-- Whether a name and a colon are next, perhaps with a question mark between them. -/
def atLabel : Rule Bool :=
  ahead do
    if !(← atAnyWord) then return false
    bumpName
    let _ ← eat .question
    atPunct .colon

/-- An item of a tuple type. -/
def tupleItem : Rule Unit := do
  let _ ← eat .ellipsis
  if ← atLabel then
    bumpName
    let _ ← eat .question
    expect .colon
    let _ ← eat .ellipsis
  skip .type
  let _ ← eat .question

/-! ### Types -/

/-- The further stretches of a template string, each after an expression read by `item`. -/
def templateRest (item : Rule Unit) (allValid : Bool) : Rule Bool := do
  match ← token with
  | .template true valid =>
    bump
    return allValid && valid
  | .template false valid =>
    bump
    loop (fun (allValid : Bool) => do
      item
      if !(← atPunct .closeBrace) then fail
      retake .template
      match ← token with
      | .template true valid =>
        bump
        return .inr (allValid && valid)
      | .template false valid =>
        bump
        return .inl (allValid && valid)
      | _ => fail) (allValid && valid)
  | _ => fail

/-- A type that is imported from a module. -/
def importType : Rule Unit := do
  expectWord .import
  expect .openParen
  stringLiteral
  if ← eat .comma then
    if ← atPunct .openBrace then
      skip (.assignment true)
      let _ ← eat .comma
  expect .closeParen
  qualifiedRest
  if !(← afterLineEnd) then
    let _ ← typeArguments

/-- The type of a value that is named. -/
def typeQuery : Rule Unit := do
  expectWord .typeof
  if ← atWord .import then importType
  else
    anyName
    qualifiedRest
    if !(← afterLineEnd) then
      let _ ← typeArguments

/-- Whether a type can start here. -/
def atType : Rule Bool := do
  match ← token with
  | .punct p =>
    match p with
    | .openBrace | .openBracket | .less | .bitOr | .bitAnd | .star | .question | .not | .ellipsis
    | .openParen => return true
    | .minus => afterNext do return (← token) == .number || (← token) == .bigint
    | _ => return false
  | .string | .number | .bigint | .template .. => return true
  | .word w _ =>
    return w.isBinding ||
      [Word.void, .this, .null, .true, .false, .new, .typeof, .import, .function].contains w
  | _ => return false

/-- A type that no bracket, mark or operator belongs to. -/
def simpleType : Rule Unit := do
  match ← token with
  | .string | .number | .bigint => bump
  | .template .. =>
    let _ ← templateRest (skip .type) true
  | .word w _ =>
    match w with
    | .true | .false | .null | .void => bump
    | .this =>
      bump
      if !(← afterLineEnd) && (← atWord .is) then
        bump
        skip .type
    | .typeof => typeQuery
    | .import => importType
    | .asserts =>
      if ← afterNext do return ((← atBinding) || (← atWord .this)) && !(← afterLineEnd) then
        bump
        bumpName
        if ← eatWord .is then skip .type
      else typeReference
    | _ => typeReference
  | .punct p =>
    match p with
    | .openBrace => if ← atMappedType then mappedType else typeMembers
    | .openBracket =>
      bump
      let _ ← commaList .closeBracket tupleItem
      expect .closeBracket
    | .openParen =>
      bump
      within ({ · with conditionalTypes := true }) (skip .type)
      expect .closeParen
    | .minus =>
      bump
      match ← token with
      | .number | .bigint => bump
      | _ => fail
    | _ => fail
  | _ => fail

/-- A type and the brackets after it. -/
def suffixedType : Rule Unit := do
  simpleType
  repeatWhile do
    if ← afterLineEnd then return false
    match ← token with
    | .punct .not =>
      bump
      return true
    | .punct .question =>
      if ← afterNext atType then return false
      bump
      return true
    | .punct .openBracket =>
      bump
      if ← atType then within ({ · with conditionalTypes := true }) (skip .type)
      expect .closeBracket
      return true
    | _ => return false

/-- What an inferred type extends, unless that starts a conditional type. -/
def inferredBound : Rule Unit := do
  let allowed := (← setting).conditionalTypes
  let bound : Rule Unit := do
    expectWord .extends
    within ({ · with conditionalTypes := false }) (skip .type)
    if allowed && (← atPunct .question) then fail
  let _ ← attempt bound

/-- A type with the words that operate on it. -/
def typeOperand : Rule Unit := do
  match ← word? with
  | some .keyof | some .unique | some .readonly =>
    bump
    skip .typeOperand
  | some .infer =>
    bump
    bindingName
    inferredBound
  | _ => within ({ · with conditionalTypes := true }) suffixedType

/-- Types joined by `op`, which may also come first. -/
def joinedTypes (op : Punct) (item : Rule Unit) : Rule Unit := do
  let part : Rule Unit := do
    if ← atFunctionType then functionType else item
  if ← eat op then part else item
  repeatWhile do
    if !(← eat op) then return false
    part
    return true

/-- A type. -/
def anyType : Rule Unit := do
  if ← atFunctionType then functionType
  else
    joinedTypes .bitOr (joinedTypes .bitAnd typeOperand)
    if (← setting).conditionalTypes && !(← afterLineEnd) then
      if ← eatWord .extends then
        within ({ · with conditionalTypes := false }) (skip .type)
        expect .question
        within ({ · with conditionalTypes := true }) (skip .type)
        expect .colon
        within ({ · with conditionalTypes := true }) (skip .type)

end OneFile.Script.Rule
