import OneFile.Script.Grammar.Class

/-!
# Declarations

Declarations of values, types and namespaces, and what modules import and export.

## Main definitions

* `OneFile.Script.Rule.bindings` — variables with their initial values.
* `OneFile.Script.Rule.atTypedDeclaration`, `OneFile.Script.Rule.typedDeclaration` — declarations
  that only scripts with types have.
* `OneFile.Script.Rule.importDeclaration`, `OneFile.Script.Rule.exportDeclaration`
-/

namespace OneFile.Script.Rule

/-! ### Variables -/

/-- A variable that is declared: whether it lacks an initial value that it needs. One that is
constant, and a pattern, needs a value. -/
def declaredVariable (isConst isUsing : Bool) : Rule Bool := do
  let pattern ← goal .binding
  let isName := pattern matches .name
  noteIf (isUsing && !isName)
  let definite ← if isName && !(← afterLineEnd) then eat .not else pure false
  let _ ← eat .question
  let typed ← typeAnnotation
  let hasValue ← if ← eat .eq then do
      skip (.assignment true)
      pure true
    else pure false
  noteIf (definite && (hasValue || !typed))
  return !hasValue && (isConst || isUsing || !isName)

/-- Variables after the word that declares them: whether one of them lacks a value. -/
def bindings (isConst isUsing : Bool) : Rule Bool := do
  let first ← declaredVariable isConst isUsing
  loop (fun (lacks : Bool) => do
    if !(← eat .comma) then return .inr lacks
    return .inl ((← declaredVariable isConst isUsing) || lacks)) first

/-- The variables of a statement of their own. -/
def variableStatement (isConst isUsing : Bool) : Rule Unit := do
  let lacks ← bindings isConst isUsing
  noteIf (lacks && !(← setting).ambient)
  endStatement

/-- Whether `using` is next and declares a variable. -/
def atUsing : Rule Bool := do
  let declares : Rule Bool := do
    if !(← atWord .using) then return false
    afterNext do return !(← afterLineEnd) && (← atBinding)
  if ← atWord .await then
    afterNext do return !(← afterLineEnd) && (← declares)
  else declares

/-! ### Declarations of types -/

/-- A name for a type. -/
def typeAlias : Rule Unit := do
  bump
  bindingName
  let _ ← typeParameters
  expect .eq
  skip .type
  endStatement

/-- An interface. -/
def interfaceDeclaration : Rule Unit := do
  bump
  bindingName
  let _ ← typeParameters
  let _ ← loop (fun (seen : Bool) => do
    if ← eatWord .extends then
      noteIf seen
      repeatWhile do
        skip .leftHand
        let _ ← typeArguments
        eat .comma
      return .inl true
    else if ← eatWord .implements then
      note
      repeatWhile do
        typeReference
        eat .comma
      return .inl seen
    else return .inr ()) false
  typeMembers

/-- A member of an enumeration. -/
def enumMember : Rule Unit := do
  match ← token with
  | .string => bump
  | .word .. => bumpName
  | .punct .openBracket =>
    bump
    match ← token with
    | .string =>
      bump
      noteIf (!(← atPunct .closeBracket))
    | .template true _ => bump
    | _ => note
    if !(← atPunct .closeBracket) then skip .expression
    expect .closeBracket
  | .number | .bigint | .privateName | .template true _ =>
    note
    bump
  | _ => fail
  if ← eat .eq then skip (.assignment true)

/-- An enumeration. -/
def enumDeclaration : Rule Unit := do
  expectWord .enum
  bindingName
  expect .openBrace
  let _ ← commaList .closeBrace enumMember
  expect .closeBrace

/-- The declarations of a namespace in braces. -/
def namespaceBody : Rule Unit := do
  expect .openBrace
  within ({ · with inFunction := false }) (blockOf .closeBrace (skip (.statement false)))

/-- A namespace, or a module that is declared under its name. -/
def namespaceDeclaration : Rule Unit := do
  let isModule ← atWord .module
  bump
  if isModule && (← token) == .string then
    bump
    if ← atPunct .openBrace then namespaceBody else endStatement
  else
    bindingName
    repeatWhile do
      if !(← eat .dot) then return false
      anyName
      return true
    namespaceBody

/-- An import by assignment, from its equals sign on: of a module, or of a name in a namespace. -/
def importAssignmentRest : Rule Unit := do
  expect .eq
  if (← atWord .require) && (← afterNext (atPunct .openParen)) then
    bump
    bump
    stringLiteral
    expect .closeParen
  else
    bindingName
    qualifiedRest
  endStatement

/-! ### Modifiers of declarations -/

/-- The modifiers of a declaration. -/
def declarationModifiers : List Word :=
  [.abstract, .accessor, .async, .declare, .private, .protected, .public, .readonly, .static,
    .override]

/-- Whether a declaration with types is next: one that starts with a word that means something
there only. -/
def atTypedDeclaration : Rule Bool :=
  ahead do
    loop (fun (_ : Unit) => do
      match ← word? with
      | some w =>
        match w with
        | .var | .let | .const | .function | .class | .enum => return .inr true
        | .interface | .type =>
          bump
          return .inr ((← atBinding) && !(← afterLineEnd))
        | .module | .namespace =>
          bump
          return .inr (!(← afterLineEnd) && ((← atBinding) || (← token) == .string))
        | .abstract | .accessor | .async | .declare | .private | .protected | .public
        | .readonly =>
          bump
          if ← afterLineEnd then return .inr false
          return .inl ()
        | .global =>
          bump
          return .inr ((← atPunct .openBrace) || (← atWord .plain) || (← atWord .export))
        | .import =>
          bump
          return .inr ((← token) == .string || (← atPunct .star) || (← atPunct .openBrace)
            || (← atAnyWord))
        | .export =>
          bump
          match ← token with
          | .punct .eq | .punct .star | .punct .openBrace | .punct .at => return .inr true
          | .word w _ =>
            if w == .default || w == .as then return .inr true
            return .inl ()
          | _ => return .inr false
        | .static =>
          bump
          return .inl ()
        | _ => return .inr false
      | none => return .inr false) ()

/-- A declaration after its modifiers. -/
def declarationRest (mods : List Word) : Rule Unit := do
  let only (allowed : List Word) : Rule Unit := noteIf (mods.any fun w => !allowed.contains w)
  match ← word? with
  | some w =>
    match w with
    | .namespace | .module =>
      only [.declare]
      namespaceDeclaration
    | .global =>
      only [.declare]
      bump
      namespaceBody
    | .type =>
      only [.declare]
      typeAlias
    | .interface =>
      only [.declare]
      interfaceDeclaration
    | .enum =>
      only [.declare]
      enumDeclaration
    | .class =>
      only [.declare, .abstract]
      classFrom
    | .import =>
      bump
      bindingName
      importAssignmentRest
    | .const =>
      only [.declare]
      bump
      if ← atWord .enum then enumDeclaration else variableStatement true false
    | .var | .let =>
      only [.declare]
      bump
      variableStatement false false
    | _ =>
      if ← atFunction then
        only [.declare, .async]
        let read ← functionFrom .declaration
        noteIf (read.hasBody && mods.contains .declare)
      else if ← atUsing then
        let _ ← eatWord .await
        bump
        variableStatement false true
      else fail
  | none => fail

/-- A declaration with its modifiers. -/
def typedDeclaration : Rule Unit := do
  let mods ← modifiers declarationModifiers
  within (fun set => { set with ambient := set.ambient || mods.contains .declare,
                                inAsync := false })
    (declarationRest mods)

/-! ### Imports -/

/-- What a name in braces may be. -/
structure Specifier where
  /-- Whether the name that is imported or exported is a string. -/
  isString : Bool
  /-- Whether it is a word that can name a declaration. -/
  isBinding : Bool

/-- The name of a specifier, as far as the grammar asks. -/
def specifierName : Rule Specifier := do
  let isBinding ← atBinding
  let isString := (← token) == .string
  exportedName
  return ⟨isString, isBinding⟩

/-- Whether the name of a specifier is next. -/
def atSpecifierName : Rule Bool := return (← atAnyWord) || (← token) == .string

/-- A new name after `as`, or else the name itself: the name first, then the new one. -/
def renamed (name : Specifier) : Rule (Specifier × Specifier) := do
  if ← atWord .as then
    bump
    return (name, ← specifierName)
  else return (name, name)

/-- A name in braces, and the name that it is given. The word `type` before a name restricts it to
types, unless it is the name itself. -/
def specifier : Rule (Specifier × Specifier) := do
  let isType ← atWord .type
  let first ← specifierName
  if !isType then return ← renamed first
  if ← atWord .as then
    let firstAs ← specifierName
    if ← atWord .as then
      let secondAs ← specifierName
      if ← atSpecifierName then return (firstAs, ← specifierName)
      return (first, secondAs)
    if ← atSpecifierName then return (first, ← specifierName)
    return (firstAs, firstAs)
  else if ← atSpecifierName then renamed (← specifierName)
  else return (first, first)

/-- The name of the module that is imported from, and the attributes of the import. -/
def moduleName : Rule Unit := do
  stringLiteral
  if (← atWord .with) || ((← atWord .assert) && !(← afterLineEnd)) then
    bump
    expect .openBrace
    let _ ← commaList .closeBrace do
      exportedName
      expect .colon
      stringLiteral
    expect .closeBrace
  endStatement

/-- Names that are imported: all of them under one name, or those in braces. -/
def importedNames : Rule Unit := do
  if ← eat .star then
    expectWord .as
    bindingName
  else
    expect .openBrace
    let (names, _) ← commaList .closeBrace specifier
    noteIf (names.any fun (_, new) => !new.isBinding)
    expect .closeBrace

/-- Whether names that are imported can be next. -/
def atImportedNames : Rule Bool := return (← atPunct .star) || (← atPunct .openBrace)

/-- Whether a word after `import` is no name but says how to import: it is followed by something
that is imported. -/
def saysHow (w : Word) : Rule Bool := do
  match w with
  | .type =>
    if (← atWord .from) && !(← afterNext do return (← atWord .from) || (← atPunct .eq)) then
      return false
    return (← atBinding) || (← atImportedNames)
  | .defer => atPunct .star
  | .source =>
    if (← atWord .from) && !(← afterNext (atWord .from)) then return false
    atBinding
  | _ => return false

/-- A name for what is imported, perhaps after a word that says how to import: whether there is
one. -/
def importedDefault : Rule Bool := do
  let word ← word?
  if !(← atBinding) then return false
  bindingName
  if ← saysHow (word.getD .plain) then
    if !(← atBinding) then return false
    bindingName
  return true

/-- An import declaration, or an import by assignment. -/
def importDeclaration : Rule Shape := do
  expectWord .import
  if (← token) == .string then
    moduleName
    return .importDeclaration
  let named ← importedDefault
  if named && !(← atPunct .comma) && !(← atWord .from) then
    importAssignmentRest
    return .other
  let more ← if named then eat .comma else pure true
  if more then importedNames
  expectWord .from
  moduleName
  return .importDeclaration

/-! ### Exports -/

/-- The default of a module. -/
def defaultExport : Rule Unit := do
  bump
  if (← atWord .class) || (← atPunct .at) then skip .primary
  else if (← atWord .abstract) && (← afterNext (atWord .class)) then
    bump
    classFrom
  else if (← atWord .interface) && (← afterNext do return (← atBinding) && !(← afterLineEnd)) then
    interfaceDeclaration
  else if ← atFunction then
    let _ ← functionFrom .defaultExport
  else
    skip (.assignment true)
    endStatement

/-- Names in braces that are exported, perhaps those of another module. -/
def exportedNames : Rule Unit := do
  expect .openBrace
  let (names, _) ← commaList .closeBrace specifier
  expect .closeBrace
  if ← eatWord .from then moduleName
  else
    noteIf (names.any fun (name, _) => name.isString || !name.isBinding)
    endStatement

/-- All names of another module, exported again. -/
def exportedModule : Rule Unit := do
  expect .star
  if ← eatWord .as then exportedName
  expectWord .from
  moduleName

/-- An export. -/
def exportDeclaration : Rule Unit := do
  expectWord .export
  match ← token with
  | .punct .eq =>
    bump
    skip .expression
    endStatement
  | .punct .star => exportedModule
  | .punct .openBrace => exportedNames
  | .punct .at =>
    let _ ← decorators
    let mods ← modifiers declarationModifiers
    if !(← atWord .class) then fail
    declarationRest mods
  | .word w _ =>
    match w with
    | .default => defaultExport
    | .import =>
      bump
      let _ ← if (← atWord .type) && (← afterNext atBinding) then eatWord .type else pure false
      bindingName
      importAssignmentRest
    | .as =>
      bump
      expectWord .namespace
      anyName
      endStatement
    | _ =>
      if w == .type && (← afterNext (atPunct .openBrace)) then
        bump
        exportedNames
      else if w == .type && (← afterNext (atPunct .star)) then
        bump
        exportedModule
      else typedDeclaration
  | _ => fail

end OneFile.Script.Rule
