import OneFile.Json.Span
import OneFile.Component.Compile

/-!
# Component records in JSON

Options, errors and buckets as other programs hand them over and get them back. When read, every
option may be missing, and so may the template shape of buckets.

## Main definitions

* `OneFile.CompileOptions.toJson`, `OneFile.CompileOptions.ofJson?`
* `OneFile.CompileError.toJson`, `OneFile.CompileError.ofJson?`
* `OneFile.Buckets.toJson`, `OneFile.Buckets.ofJson?`
-/

namespace OneFile

/-! ### Options -/

/-- A strategy, by its name. -/
def IdStrategy.toJson : IdStrategy → Json
  | .random => .ofString "random"
  | .contentHash => .ofString "content-hash"

/-- Reads a strategy. -/
def IdStrategy.ofJson? (j : Json) : Option IdStrategy := do
  let s ← j.string?
  if s = "random".toList then some .random
  else if s = "content-hash".toList then some .contentHash
  else none

/-- Options as a record, with all of them said. -/
def CompileOptions.toJson (o : CompileOptions) : Json :=
  .ofMembers [("scope", .bool o.scope), ("id", .ofOption .string o.id),
    ("idStrategy", o.idStrategy.toJson)]

/-- Reads options, of which each may be missing. -/
def CompileOptions.ofJson? (j : Json) : Option CompileOptions := do
  match ← j.fields? ["scope", "id", "idStrategy"] with
  | [scope, id, idStrategy] =>
    return ⟨← Json.optional false Json.bool? scope,
      ← Json.optional none (Json.nullable? Json.string?) id,
      ← Json.optional .random IdStrategy.ofJson? idStrategy⟩
  | _ => none

/-! ### Errors -/

/-- An error as a record that names its kind. -/
def CompileError.toJson : CompileError → Json
  | .markup offset message =>
    .ofMembers [("kind", .ofString "markupSyntax"), ("offset", .nat offset),
      ("message", .string message)]
  | .script range message =>
    .ofMembers [("kind", .ofString "scriptSyntax"), ("range", range.toJson),
      ("message", .string message)]
  | .style range message =>
    .ofMembers [("kind", .ofString "styleSyntax"), ("range", range.toJson),
      ("message", .string message)]

/-- A record of a block and a message, as an error. -/
def CompileError.blockOfJson? (error : Span → Text → CompileError) (j : Json) :
    Option CompileError := do
  match ← j.fields? ["range", "message"] with
  | [range, message] =>
    return error (← Json.required Span.ofJson? range) (← Json.required Json.string? message)
  | _ => none

/-- Reads an error, with the fields that its kind asks for. -/
def CompileError.ofJson? (j : Json) : Option CompileError := do
  let (kind, record) ← j.tagged? "kind"
  if kind = "markupSyntax".toList then
    match ← record.fields? ["offset", "message"] with
    | [offset, message] =>
      return .markup (← Json.required Json.nat? offset) (← Json.required Json.string? message)
    | _ => none
  else if kind = "scriptSyntax".toList then blockOfJson? .script record
  else if kind = "styleSyntax".toList then blockOfJson? .style record
  else none

/-! ### Buckets -/

/-- A piece as a record. One that was made has null for a range. -/
def Piece.toJson (p : Piece) : Json :=
  .ofMembers [("text", .string p.text), ("range", .ofOption Span.toJson p.range)]

/-- Reads a piece. Its range may be missing from an object, but not from an array. -/
def Piece.ofJson? (j : Json) : Option Piece := do
  match ← j.fullFields? ["text", "range"] with
  | [text, range] =>
    return ⟨← Json.required Json.string? text,
      ← Json.optional none (Json.nullable? Span.ofJson?) range⟩
  | _ => none

/-- A template shape, by its name. -/
def TemplateShape.toJson : TemplateShape → Json
  | .empty => .ofString "empty"
  | .element => .ofString "element"
  | .fragment => .ofString "fragment"

/-- Reads a template shape. -/
def TemplateShape.ofJson? (j : Json) : Option TemplateShape := do
  let s ← j.string?
  if s = "empty".toList then some .empty
  else if s = "element".toList then some .element
  else if s = "fragment".toList then some .fragment
  else none

/-- Buckets as a record of their pieces and the template shape. -/
def Buckets.toJson (b : Buckets) : Json :=
  let pieces (ps : List Piece) : Json := .array (ps.map Piece.toJson)
  .ofMembers [("imports", pieces b.imports), ("moduleBody", pieces b.moduleBody),
    ("instanceBody", pieces b.instanceBody), ("template", pieces b.template),
    ("styles", pieces b.styles), ("templateShape", b.shape.toJson)]

/-- Reads buckets. Without a template shape nothing renders. -/
def Buckets.ofJson? (j : Json) : Option Buckets := do
  let pieces := Json.required (Json.list? Piece.ofJson?)
  match ← j.fields?
    ["imports", "moduleBody", "instanceBody", "template", "styles", "templateShape"] with
  | [imports, moduleBody, instanceBody, template, styles, shape] =>
    return ⟨← pieces imports, ← pieces moduleBody, ← pieces instanceBody, ← pieces template,
      ← pieces styles, ← Json.optional .empty TemplateShape.ofJson? shape⟩
  | _ => none

end OneFile
