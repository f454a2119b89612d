import OneFile.Script.Grammar.Expression

/-!
# Embedded tags

Tags stand for values in expressions. Between an opening tag and its closing tag there is text, in
which only angle brackets and opening braces mean something, so what comes after a bracket is cut
into tokens according to where the tag stands.

## Main definitions

* `OneFile.Script.Rule.tag`
-/

namespace OneFile.Script.Rule

/-! ### Names -/

/-- A word that goes on with hyphens. -/
def tagWord : Rule Text := do
  if !(← atAnyWord) then fail
  retake .tagWord
  let name := (← here).current.name
  bumpName
  return name

/-- The name of a tag: a word, two words with a colon, or a path of words. -/
def tagName : Rule (List Text) := do
  let first ← tagWord
  if ← eat .colon then return [first, [':'], ← tagWord]
  loop (fun (read : List Text) => do
    if !(← eat .dot) then return .inr read
    let word ← tagWord
    noteIf (word.contains '-')
    return .inl (read ++ [['.'], word])) [first]

/-! ### Attributes -/

/-- The value of an attribute: a string, an expression in braces, or a tag. -/
def attributeValue : Rule Unit := do
  match ← token with
  | .markupString => bump
  | .punct .openBrace =>
    bump
    if !(← atPunct .closeBrace) then
      within ({ · with allowIn := true }) (skip .expression)
    expect .closeBrace
  | .punct .less => skip (.tag false)
  | _ => fail

/-- An attribute of a tag. -/
def attributeItem : Rule Unit := do
  if ← eat .openBrace then
    expect .ellipsis
    within ({ · with allowIn := true }) (skip .expression)
    expect .closeBrace
  else
    let _ ← tagWord
    if ← eat .colon then
      let _ ← tagWord
    if ← atPunct .eq then
      advance .markupValue
      attributeValue

/-- The attributes of a tag. -/
def tagAttributes : Rule Unit :=
  repeatWhile do
    match ← token with
    | .endOfInput | .punct .less | .punct .greater | .punct .slash => return false
    | _ =>
      attributeItem
      return true

/-! ### Contents -/

/-- Reads the punctuator, after which there is text or code. -/
def leave (p : Punct) (text : Bool) : Rule Unit := do
  if !(← atPunct p) then fail
  advance (if text then .markupText else .code)

/-- An expression or spread value between tags. -/
def embeddedValue : Rule Unit := do
  bump
  within ({ · with allowIn := true }) do
    if ← eat .ellipsis then skip .expression
    else if !(← atPunct .closeBrace) then skip .expression
  leave .closeBrace true

/-- What lies between an opening tag and its closing tag, whose bracket comes next. -/
def tagContents : Rule Unit :=
  repeatWhile do
    match ← token with
    | .markupText =>
      advance .markupText
      return true
    | .punct .openBrace =>
      embeddedValue
      return true
    | .punct .less =>
      if ← afterNext (atPunct .slash) then return false
      skip (.tag true)
      return true
    | _ => fail

/-- A tag with its contents and its closing tag, or a pair of empty brackets in their place.
After it there is text if it is `inner` to another one. -/
def tag (inner : Bool) : Rule Shape := do
  expect .less
  if ← atPunct .greater then
    leave .greater true
    tagContents
    expect .less
    expect .slash
    leave .greater inner
  else
    let name ← tagName
    let _ ← typeArguments
    tagAttributes
    if ← eat .slash then leave .greater inner
    else
      leave .greater true
      tagContents
      expect .less
      expect .slash
      let closing ← tagName
      noteIf (closing != name)
      leave .greater inner
  return .other

end OneFile.Script.Rule
