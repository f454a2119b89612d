import OneFile.Script.Grammar.Type

/-!
# Functions

Functions with a keyword, methods, and arrow functions. Whether a parenthesis opens the parameters
of an arrow function shows only at the arrow, so where the first tokens do not settle it, the
parameters are tried.

## Main definitions

* `OneFile.Script.Rule.functionRest` — what follows the name of a function or method.
* `OneFile.Script.Rule.functionFrom` — a function from its keyword on.
* `OneFile.Script.Rule.arrowFunction?` — an arrow function whose parameters are in parentheses.
-/

namespace OneFile.Script.Rule

/-! ### Functions -/

/-- The body of a function in braces. -/
def functionBody : Rule Unit := do
  expect .openBrace
  within ({ · with inFunction := true }) (blockOf .closeBrace (skip (.statement false)))

/-- What follows the name of a function, as far as the grammar asks. -/
structure FunctionRest where
  parameters : Parameters
  hasBody : Bool

/-- What follows the name of a function: parameters, a result type, and a body. Where `bodyless`
functions are allowed, the body may be missing. -/
def functionRest (isAsync isGenerator bodyless : Bool) : Rule FunctionRest := do
  let read ← within
      ({ · with allowIn := true, inAsync := isAsync, inGenerator := isGenerator }) do
    let parameters ← signature
    if ← atPunct .openBrace then
      functionBody
      return ⟨parameters, true⟩
    else return ⟨parameters, false⟩
  if !read.hasBody then
    if bodyless then endStatement else fail
  return read

/-- What a function is part of. -/
inductive FunctionPlace where
  /-- A statement of its own, which needs a name. -/
  | declaration
  /-- The default of a module. -/
  | defaultExport
  | expression
deriving DecidableEq, Repr

/-- A function, as far as the grammar asks. -/
structure FunctionRead where
  isAsync : Bool
  isGenerator : Bool
  hasBody : Bool

/-- The name of a function, if it has one. -/
def functionName (place : FunctionPlace) (isAsync isGenerator : Bool) : Rule Unit := do
  if ← atBinding then
    if place == .expression then
      within ({ · with inAsync := isAsync, inGenerator := isGenerator }) bindingName
    else bindingName
  else if place == .declaration then
    noteIf (← atPunct .openParen)
    if ← atAnyWord then fail

/-- Whether a function is next, perhaps an asynchronous one. -/
def atFunction : Rule Bool := do
  if ← atWord .function then return true
  if !(← atWord .async) then return false
  afterNext do return !(← afterLineEnd) && (← atWord .function)

/-- A function from its keyword on. -/
def functionFrom (place : FunctionPlace) : Rule FunctionRead := do
  let isAsync ← eatWord .async
  expectWord .function
  let isGenerator ← eat .star
  functionName place isAsync isGenerator
  let read ← functionRest isAsync isGenerator true
  return ⟨isAsync, isGenerator, read.hasBody⟩

/-! ### Arrow functions -/

/-- The body of an arrow function: a block or an expression. -/
def arrowBody (isAsync arrowType : Bool) : Rule Shape := do
  within ({ · with inAsync := isAsync, inGenerator := false }) do
    if ← atPunct .openBrace then functionBody else skip (.assignment arrowType)
  return .other

/-- The arrow, which must be on the line of the parameters. -/
def arrow : Rule Unit := do
  noteIf (← afterLineEnd)
  expect .arrow

/-- An arrow function up to its arrow: whether it is asynchronous, and whether it has a result
type. -/
def arrowHead : Rule (Bool × Bool) := do
  let isAsync ← eatWord .async
  let hasResult ← within (fun set => { set with inAsync := set.inAsync || isAsync }) do
    let _ ← typeParameters
    let read ← parameters
    noteIf read.receiver
    resultType
  arrow
  return (isAsync, hasResult)

/-- What the next tokens say about an arrow function. -/
inductive ArrowStart where
  | none
  | possible
  | certain
deriving DecidableEq, Repr

/-- What the tokens after an opening parenthesis say about an arrow function. -/
def arrowStartInParens : Rule ArrowStart := do
  match ← token with
  | .punct .closeParen =>
    bump
    match ← token with
    | .punct .colon | .punct .arrow | .punct .openBrace => return .possible
    | _ => return .none
  | .punct .openBracket | .punct .openBrace => return .possible
  | .punct .ellipsis => return .certain
  | .word w _ =>
    if !w.isBinding && w != .this then return .none
    bumpName
    match ← token with
    | .punct .colon => return .certain
    | .punct .question =>
      bump
      match ← token with
      | .punct .colon | .punct .comma | .punct .eq | .punct .closeParen => return .certain
      | _ => return .none
    | .punct .comma | .punct .eq | .punct .closeParen => return .possible
    | .word .. => return if parameterModifiers.contains w then .possible else .none
    | _ => return .none
  | _ => return .none

/-- What the tokens after an opening angle bracket say about an arrow function; an embedded tag
could start there as well. -/
def arrowStartInAngles : Rule ArrowStart := do
  if !(← atBinding) && !(← atWord .const) then return .none
  let _ ← eatWord .const
  bumpName
  match ← token with
  | .punct .comma | .punct .eq => return .certain
  | .word .extends _ =>
    bump
    match ← token with
    | .punct .eq | .punct .greater | .punct .slash => return .none
    | _ => return .certain
  | _ => return .none

/-- What the next tokens say about an arrow function whose parameters are in parentheses. -/
def arrowStart : Rule ArrowStart := do
  let read ← look do
    if ← eatWord .async then
      if ← afterLineEnd then return ArrowStart.none
    if ← eat .openParen then arrowStartInParens
    else if ← eat .less then arrowStartInAngles
    else return .none
  return read.getD .none

/-- An arrow function whose parameters are in parentheses, if there is one here. Where `arrowType`
does not hold, it has a result type only if a colon follows: the colon of a conditional
expression is no mark of a result type. -/
def arrowFunction? (arrowType : Bool) : Rule (Option Shape) := unlessNone do
  match ← arrowStart with
  | .none => return none
  | .certain =>
    let (isAsync, _) ← arrowHead
    return some (← arrowBody isAsync arrowType)
  | .possible =>
    match ← attempt arrowHead with
    | none => return none
    | some (isAsync, hasResult) =>
      let read ← arrowBody isAsync arrowType
      if hasResult && !arrowType && !(← atPunct .colon) then return none
      return some read

/-- An asynchronous arrow function with a lone name for its parameter, if there is one here. -/
def asyncArrowFunction? (arrowType : Bool) : Rule (Option Shape) := do
  if !(← atWord .async) then return none
  let starts ← afterNext do
    if (← afterLineEnd) || !(← atBinding) then return false
    bumpName
    return !(← afterLineEnd) && (← atPunct .arrow)
  if !starts then return none
  bump
  within ({ · with inAsync := true }) bindingName
  arrow
  return some (← arrowBody true arrowType)

end OneFile.Script.Rule
