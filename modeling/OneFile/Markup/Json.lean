import OneFile.Json.Span
import OneFile.Markup.Node

/-!
# Markup trees in JSON

Every node is a record that names its kind in the member `type`. Attribute values and their parts
are pairs of a kind and a content. When read, `selfClosing` and an attribute's span may be
missing, and so may the content of an empty attribute value.

## Main definitions

* `OneFile.Markup.Node.toJson`, `OneFile.Markup.Node.ofJson?`
-/

namespace OneFile.Markup

/-! ### Attributes -/

/-- A stretch of an attribute value, as a pair of its kind and its text. -/
def ValuePart.toJson : ValuePart → Json
  | .text value => .ofMembers [("type", .ofString "text"), ("value", .string value)]
  | .expression source => .ofMembers [("type", .ofString "expression"), ("value", .string source)]

/-- Reads a stretch of an attribute value. -/
def ValuePart.ofJson? (j : Json) : Option ValuePart := do
  match ← j.fields? ["type", "value"] with
  | [kind, value] =>
    let kind ← Json.required Json.string? kind
    let value ← Json.required Json.string? value
    if kind = "text".toList then return .text value
    else if kind = "expression".toList then return .expression value
    else none
  | _ => none

/-- What an attribute is set to, as a pair of its kind and its content. Nothing has no content. -/
def AttributeValue.toJson : AttributeValue → Json
  | .empty => .ofMembers [("kind", .ofString "empty")]
  | .text parts =>
    .ofMembers [("kind", .ofString "text"), ("value", .array (parts.map ValuePart.toJson))]
  | .expression source => .ofMembers [("kind", .ofString "expression"), ("value", .string source)]

/-- Reads what an attribute is set to. Nothing has null for a content, or none at all; in an array
it has to be there. -/
def AttributeValue.ofJson? (j : Json) : Option AttributeValue := do
  match ← j.fullFields? ["kind", "value"] with
  | [kind, value] =>
    let kind ← Json.required Json.string? kind
    if kind = "empty".toList then
      match value with
      | none | some .null => return .empty
      | _ => none
    else if kind = "text".toList then
      return .text (← Json.required (Json.list? ValuePart.ofJson?) value)
    else if kind = "expression".toList then
      return .expression (← Json.required Json.string? value)
    else none
  | _ => none

/-- An attribute as a record. -/
def Attribute.toJson (a : Attribute) : Json :=
  .ofMembers [("name", .string a.name), ("value", a.value.toJson), ("span", a.span.toJson)]

/-- Reads an attribute. Without a span it is at no place in any source. -/
def Attribute.ofJson? (j : Json) : Option Attribute := do
  match ← j.fields? ["name", "value", "span"] with
  | [name, value, span] =>
    return ⟨← Json.required Json.string? name, ← Json.required AttributeValue.ofJson? value,
      ← Json.optional {} Span.ofJson? span⟩
  | _ => none

/-! ### Nodes -/

namespace Node

mutual

/-- A node as a record that names its kind. -/
def toJson : Node → Json
  | .element tag children span =>
    .ofMembers [("type", .ofString "element"), ("name", .string tag.name),
      ("attributes", .array (tag.attributes.map Attribute.toJson)),
      ("children", .array (toJsonAll children)), ("selfClosing", .bool tag.selfClosing),
      ("span", span.toJson)]
  | .text value span =>
    .ofMembers [("type", .ofString "text"), ("value", .string value), ("span", span.toJson)]
  | .expression source span =>
    .ofMembers [("type", .ofString "expression-tag"), ("expression", .string source),
      ("span", span.toJson)]
  | .comment value span =>
    .ofMembers [("type", .ofString "comment"), ("value", .string value), ("span", span.toJson)]

/-- Nodes as records, in their order. -/
def toJsonAll : List Node → List Json
  | [] => []
  | node :: nodes => toJson node :: toJsonAll nodes

end

/-- A record of a text and its span, as a node. -/
def leafOfJson? (member : String) (node : Text → Span → Node) (j : Json) : Option Node := do
  match ← j.fields? [member, "span"] with
  | [value, span] =>
    return node (← Json.required Json.string? value) (← Json.required Span.ofJson? span)
  | _ => none

mutual

/-- Reads a node. -/
def ofJson? (j : Json) : Option Node :=
  match _hk : j.tagged? "type" with
  | none => none
  | some (kind, record) =>
    if kind = "text".toList then leafOfJson? "value" .text record
    else if kind = "expression-tag".toList then leafOfJson? "expression" .expression record
    else if kind = "comment".toList then leafOfJson? "value" .comment record
    else if kind = "element".toList then
      match _hf : record.fields? ["name", "attributes", "children", "selfClosing", "span"] with
      | some [name, attributes, some (.array children), selfClosing, span] => do
        let name ← Json.required Json.string? name
        let attributes ← Json.required (Json.list? Attribute.ofJson?) attributes
        let children ← ofJsonAll? children
        let selfClosing ← Json.optional false Json.bool? selfClosing
        let span ← Json.required Span.ofJson? span
        return .element ⟨name, attributes, selfClosing⟩ children span
      | _ => none
    else none
termination_by sizeOf j
decreasing_by
  have h₁ := Json.sizeOf_le_of_tagged? _hk
  have h₂ := Json.sizeOf_lt_of_mem_fields? (j := .array children) _hf (by simp)
  simp only [Json.array.sizeOf_spec] at h₂
  omega

/-- Reads nodes one after the other. -/
def ofJsonAll? (items : List Json) : Option (List Node) :=
  match items with
  | [] => some []
  | item :: items =>
    match ofJson? item with
    | none => none
    | some node => (ofJsonAll? items).map (node :: ·)
termination_by sizeOf items

end

/-- Reads an array of nodes. -/
def listOfJson? : Json → Option (List Node)
  | .array items => ofJsonAll? items
  | _ => none

end Node

end OneFile.Markup
