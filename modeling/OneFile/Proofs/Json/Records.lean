import OneFile.Bundle.Json
import OneFile.Markup.Json
import OneFile.Proofs.Json.Form

/-!
# The records of components

Every record that goes to other programs has a form, which is that of how it is encoded. Whatever
the form admits is decoded as the record. So a decoder does not mind a member that it does not know,
nor that a field is missing which holds what it holds by default.

## Main definitions

* `OneFile.Span.form`, `OneFile.Markup.Node.form`, `OneFile.CompileOptions.form`,
  `OneFile.CompileError.form`, `OneFile.Buckets.form`, `OneFile.Bundle.PluginOptions.form`

## Main results

* `OneFile.Markup.Node.written_form` and its like — an encoder writes the form.
* `OneFile.Markup.Node.ofJson?_of_admits` and its like — a decoder reads what the form admits.
-/

namespace OneFile

open Json

variable {j : Json}

/-! ### Spans -/

namespace Span

variable (span : Span)

/-- The form of a span. -/
def form : Form :=
  .record [.needed "start" (.value (.nat span.start)), .needed "end" (.value (.nat span.stop))]

/-- The two ends of a span have different names. -/
@[simp] lemma distinct_form : span.form.Distinct := by
  simp [form]

/-- A span is encoded in its form. -/
@[simp] lemma written_form : span.form.written = span.toJson := rfl

/-- A span is read from what its form admits. -/
lemma ofJson?_of_admits (h : span.form.Admits j) : ofJson? j = some span := by
  rw [ofJson?, h.fields?_pair]
  rfl

end Span

/-! ### Attributes -/

namespace Markup

namespace ValuePart

/-- The form of a stretch of an attribute value. -/
def form : ValuePart → Form
  | .text value => .record [.needed "type" (.value (.ofString "text")),
      .needed "value" (.value (.string value))]
  | .expression source => .record [.needed "type" (.value (.ofString "expression")),
      .needed "value" (.value (.string source))]

/-- A kind and a text have different names. -/
@[simp] lemma distinct_form (part : ValuePart) : part.form.Distinct := by
  cases part <;> simp [form]

/-- A stretch of an attribute value is encoded in its form. -/
@[simp] lemma written_form (part : ValuePart) : part.form.written = part.toJson := by
  cases part <;> rfl

/-- It is read from what its form admits. -/
lemma ofJson?_of_admits (part : ValuePart) (h : part.form.Admits j) : ofJson? j = some part := by
  cases part with
  | text value =>
    rw [ofJson?, h.fields?_pair]
    rfl
  | expression source =>
    rw [ofJson?, h.fields?_pair]
    rfl

end ValuePart

namespace AttributeValue

/-- The form of what an attribute is set to. Nothing has no content, or null for one. -/
def form : AttributeValue → Form
  | .empty => .record [.needed "kind" (.value (.ofString "empty")), ⟨"value", .tacit, .value .null⟩]
  | .text parts => .record [.needed "kind" (.value (.ofString "text")),
      .needed "value" (.list (parts.map ValuePart.form))]
  | .expression source => .record [.needed "kind" (.value (.ofString "expression")),
      .needed "value" (.value (.string source))]

/-- A kind and a content have different names, in the content too. -/
@[simp] lemma distinct_form (value : AttributeValue) : value.form.Distinct := by
  cases value <;> simp [form]

/-- What an attribute is set to is encoded in its form, which says nothing of a missing content. -/
@[simp] lemma written_form (value : AttributeValue) : value.form.written = value.toJson := by
  cases value with
  | empty => rfl
  | text parts =>
    have hparts : (Form.list (parts.map ValuePart.form)).written =
        .array (parts.map ValuePart.toJson) := Form.written_list_map ValuePart.written_form
    rw [form, Form.written, Form.writtenFields_needed, Form.writtenFields_needed, hparts]
    rfl
  | expression source => rfl

/-- It is read from what its form admits: no content and null for one are the same. -/
lemma ofJson?_of_admits (value : AttributeValue) (h : value.form.Admits j) :
    ofJson? j = some value := by
  cases value with
  | empty =>
    obtain ⟨members, rfl, hfields⟩ := h.exists_members
    have hkind := h.required_eq (.head _) fun _ => Form.Admits.string?_eq
    have hvalue := (Form.admits_record_iff.1 h _ (.tail _ (.head _))).1
    rw [ofJson?, h.fullFields?_eq, hfields]
    simp only [List.map_cons, List.map_nil, hkind, Option.bind_eq_bind, Option.bind_some]
    cases hlookup : lookup "value".toList members with
    | none => rfl
    | some j =>
      cases hvalue j hlookup
      rfl
  | text parts =>
    obtain ⟨members, rfl, hfields⟩ := h.exists_members
    have hkind := h.required_eq (.head _) fun _ => Form.Admits.string?_eq
    have hparts := h.required_eq (.tail _ (.head _)) fun _ hlist =>
      hlist.list?_eq fun part _ => part.ofJson?_of_admits
    rw [ofJson?, h.fullFields?_eq, hfields]
    simp only [List.map_cons, List.map_nil, hkind, hparts, Option.bind_eq_bind, Option.bind_some]
    rfl
  | expression source =>
    rw [ofJson?, h.fullFields?_eq, h.fields?_pair]
    rfl

end AttributeValue

namespace Attribute

/-- The form of an attribute. One at no place in any source need not say so. -/
def form (a : Attribute) : Form :=
  .record [.needed "name" (.value (.string a.name)), .needed "value" a.value.form,
    .orDefault "span" a.span {} a.span.form]

/-- The fields of an attribute have different names. -/
@[simp] lemma distinct_form (a : Attribute) : a.form.Distinct := by
  simp [form]

/-- An attribute is encoded in its form, span and all. -/
@[simp] lemma written_form (a : Attribute) : a.form.written = a.toJson := by
  rw [form, Form.written, Form.writtenFields_needed, Form.writtenFields_needed,
    Form.writtenFields_orDefault, AttributeValue.written_form, Span.written_form]
  rfl

/-- An attribute is read from what its form admits, with a span or without. -/
lemma ofJson?_of_admits (a : Attribute) (h : a.form.Admits j) : ofJson? j = some a := by
  obtain ⟨members, rfl, hfields⟩ := h.exists_members
  have hname := h.required_eq (.head _) fun _ => Form.Admits.string?_eq
  have hvalue := h.required_eq (.tail _ (.head _)) fun _ => a.value.ofJson?_of_admits
  have hspan := h.optional_eq (.tail _ (.tail _ (.head _))) fun _ => a.span.ofJson?_of_admits
  rw [ofJson?, hfields]
  simp only [List.map_cons, List.map_nil, hname, hvalue, hspan, Option.bind_eq_bind,
    Option.bind_some]
  rfl

example : ofJson? (.ofMembers [("by", .null), ("value", AttributeValue.empty.toJson),
    ("name", .ofString "open")]) = some (.present "open".toList) := rfl

end Attribute

/-! ### Nodes -/

namespace Node

/-- The form of a text and its span. -/
def leafForm (kind member : String) (value : Text) (span : Span) : Form :=
  .record [.needed "type" (.value (.ofString kind)), .needed member (.value (.string value)),
    .needed "span" span.form]

mutual

/-- The form of a node. An element that is not closed by its own opening need not say so. -/
def form : Node → Form
  | .element tag children span =>
    .record [.needed "type" (.value (.ofString "element")),
      .needed "name" (.value (.string tag.name)),
      .needed "attributes" (.list (tag.attributes.map Attribute.form)),
      .needed "children" (.list (formAll children)),
      .orDefault "selfClosing" tag.selfClosing false (.value (.bool tag.selfClosing)),
      .needed "span" span.form]
  | .text value span => leafForm "text" "value" value span
  | .expression source span => leafForm "expression-tag" "expression" source span
  | .comment value span => leafForm "comment" "value" value span

/-- The forms of nodes, in their order. -/
def formAll : List Node → List Form
  | [] => []
  | node :: nodes => form node :: formAll nodes

end

/-- A leaf names its fields differently. -/
lemma distinct_leafForm {kind member : String} {value : Text} {span : Span}
    (htag : member ≠ "type") (hspan : member ≠ "span") :
    (leafForm kind member value span).Distinct := by
  simp [leafForm, htag.symm, hspan]

mutual

/-- No record in a node has two fields of one name. -/
lemma distinct_form (node : Node) : node.form.Distinct := by
  cases node with
  | element tag children span =>
    have hchildren := distinct_formAll children
    simpa [form] using hchildren
  | text value span => exact distinct_leafForm (by decide) (by decide)
  | expression source span => exact distinct_leafForm (by decide) (by decide)
  | comment value span => exact distinct_leafForm (by decide) (by decide)

/-- None in a list of nodes has. -/
lemma distinct_formAll (nodes : List Node) : ∀ item ∈ formAll nodes, item.Distinct := by
  cases nodes with
  | nil => simp [formAll]
  | cons node nodes =>
    rw [formAll, List.forall_mem_cons]
    exact ⟨distinct_form node, distinct_formAll nodes⟩

end

mutual

/-- **A node is encoded in its form.** -/
lemma written_form (node : Node) : node.form.written = node.toJson := by
  cases node with
  | element tag children span =>
    have hattributes : (Form.list (tag.attributes.map Attribute.form)).written =
        .array (tag.attributes.map Attribute.toJson) :=
      Form.written_list_map Attribute.written_form
    have hchildren : (Form.list (formAll children)).written = .array (toJsonAll children) := by
      rw [Form.written, writtenAll_formAll children]
    rw [form, Form.written]
    simp only [Form.writtenFields_needed, Form.writtenFields_orDefault, hattributes, hchildren,
      Span.written_form]
    rfl
  | text value span => rfl
  | expression source span => rfl
  | comment value span => rfl

/-- Nodes are encoded in their forms. -/
lemma writtenAll_formAll (nodes : List Node) :
    Form.writtenAll (formAll nodes) = toJsonAll nodes := by
  cases nodes with
  | nil => rfl
  | cons node nodes =>
    rw [formAll, Form.writtenAll, written_form node, writtenAll_formAll nodes, toJsonAll]

end

/-- A node of another kind than an element is read as a leaf. -/
lemma ofJson?_of_leaf {kind : Text} {record : Json} (h : j.tagged? "type" = some (kind, record))
    (hkind : kind ≠ "element".toList) :
    ofJson? j =
      if kind = "text".toList then leafOfJson? "value" .text record
      else if kind = "expression-tag".toList then leafOfJson? "expression" .expression record
      else if kind = "comment".toList then leafOfJson? "value" .comment record
      else none := by
  rw [ofJson?]
  split
  · rename_i hnone
    rw [h] at hnone
    cases hnone
  · rename_i hsome
    rw [h] at hsome
    cases hsome
    rw [if_neg hkind]

/-- An element is read by its fields. -/
lemma ofJson?_of_element {record : Json} {name attributes selfClosing span : Option Json}
    {children : List Json} (h : j.tagged? "type" = some ("element".toList, record))
    (hfields : record.fields? ["name", "attributes", "children", "selfClosing", "span"] =
      some [name, attributes, some (.array children), selfClosing, span]) :
    ofJson? j = do
      let name ← Json.required Json.string? name
      let attributes ← Json.required (Json.list? Attribute.ofJson?) attributes
      let children ← ofJsonAll? children
      let selfClosing ← Json.optional false Json.bool? selfClosing
      let span ← Json.required Span.ofJson? span
      return .element ⟨name, attributes, selfClosing⟩ children span := by
  rw [ofJson?]
  split
  · rename_i hnone
    rw [h] at hnone
    cases hnone
  · rename_i hsome
    rw [h] at hsome
    cases hsome
    rw [if_neg (by decide), if_neg (by decide), if_neg (by decide), if_pos rfl]
    split
    · rename_i hsame
      rw [hfields] at hsame
      cases hsame
      rfl
    · rename_i hother
      exact absurd hfields (hother _ _ _ _ _)

/-- A text and its span are read as a leaf. -/
lemma leafOfJson?_of_admits {kind member : String} {value : Text} {span : Span}
    (htag : member ≠ "type") (hspan : member ≠ "span")
    (h : (leafForm kind member value span).Admits j) (node : Text → Span → Node) :
    ∃ record, j.tagged? "type" = some (kind.toList, record) ∧
      leafOfJson? member node record = some (node value span) := by
  obtain ⟨members, htagged, hrecord⟩ := h.tagged?_eq (distinct_leafForm htag hspan)
  obtain ⟨_, heq, hfields⟩ := hrecord.exists_members
  have hvalue := hrecord.required_eq (.head _) fun _ => Form.Admits.string?_eq
  have hspan := hrecord.required_eq (.tail _ (.head _)) fun _ => span.ofJson?_of_admits
  refine ⟨_, htagged, ?_⟩
  rw [leafOfJson?, hfields]
  cases heq
  simp only [List.map_cons, List.map_nil, hvalue, hspan, Option.bind_eq_bind, Option.bind_some]
  rfl

mutual

/-- **A node is read from what its form admits.** -/
theorem ofJson?_of_admits (node : Node) {j : Json} (h : node.form.Admits j) :
    ofJson? j = some node := by
  cases node with
  | element tag children span =>
    obtain ⟨members, htagged, hrecord⟩ := h.tagged?_eq (distinct_form (.element tag children span))
    obtain ⟨_, heq, hfields⟩ := hrecord.exists_members
    cases heq
    have hname := hrecord.required_eq (.head _) fun _ => Form.Admits.string?_eq
    have hattributes := hrecord.required_eq (.tail _ (.head _)) fun _ hlist =>
      hlist.list?_eq fun a _ => a.ofJson?_of_admits
    obtain ⟨_, hlookup, hitems⟩ := hrecord.exists_of_needed (.tail _ (.tail _ (.head _)))
    have hclosing := hrecord.optional_eq (.tail _ (.tail _ (.tail _ (.head _))))
      fun _ => Form.Admits.bool?_eq
    have hspan := hrecord.required_eq (.tail _ (.tail _ (.tail _ (.tail _ (.head _)))))
      fun _ => span.ofJson?_of_admits
    cases hitems with
    | list hitems =>
    have hall := hfields ["name", "attributes", "children", "selfClosing", "span"]
    simp only [List.map_cons, List.map_nil, hlookup] at hall
    rw [ofJson?_of_element htagged hall]
    simp only [hname, hattributes, hclosing, hspan, ofJsonAll?_of_admits children hitems,
      Option.bind_eq_bind, Option.bind_some]
    rfl
  | text value span =>
    obtain ⟨record, htagged, hleaf⟩ :=
      leafOfJson?_of_admits (by decide) (by decide) h Node.text
    rw [ofJson?_of_leaf htagged (by decide), if_pos rfl, hleaf]
  | expression source span =>
    obtain ⟨record, htagged, hleaf⟩ :=
      leafOfJson?_of_admits (by decide) (by decide) h Node.expression
    rw [ofJson?_of_leaf htagged (by decide), if_neg (by decide), if_pos rfl, hleaf]
  | comment value span =>
    obtain ⟨record, htagged, hleaf⟩ :=
      leafOfJson?_of_admits (by decide) (by decide) h Node.comment
    rw [ofJson?_of_leaf htagged (by decide), if_neg (by decide), if_neg (by decide), if_pos rfl,
      hleaf]

/-- Nodes are read from what their forms admit. -/
lemma ofJsonAll?_of_admits (nodes : List Node) {js : List Json}
    (h : List.Forall₂ Form.Admits (formAll nodes) js) : ofJsonAll? js = some nodes := by
  cases nodes with
  | nil =>
    cases h
    rw [ofJsonAll?]
  | cons node nodes =>
    cases h with
    | cons hnode hnodes =>
    rw [ofJsonAll?, ofJson?_of_admits node hnode, ofJsonAll?_of_admits nodes hnodes]
    rfl

end

end Node

end Markup

/-! ### Options -/

/-- A strategy is read by its name. -/
lemma IdStrategy.ofJson?_toJson (strategy : IdStrategy) :
    ofJson? strategy.toJson = some strategy := by
  cases strategy <;> rfl

namespace CompileOptions

/-- The form of options. Each of them need not be given if it is as it is by default. -/
def form (o : CompileOptions) : Form :=
  .record [.orDefault "scope" o.scope false (.value (.bool o.scope)),
    .orDefault "id" o.id none (.orNull (fun id => .value (.string id)) o.id),
    .orDefault "idStrategy" o.idStrategy .random (.value o.idStrategy.toJson)]

/-- The fields of options have different names. -/
lemma distinct_form (o : CompileOptions) : o.form.Distinct := by
  have hid := Form.distinct_orNull (fun id => Form.distinct_value (.string id)) o.id
  simpa [form] using hid

/-- **Options are encoded in their form.** -/
lemma written_form (o : CompileOptions) : o.form.written = o.toJson := by
  have hid : (Form.orNull (fun id => .value (.string id)) o.id).written = .ofOption .string o.id :=
    Form.written_orNull (fun id => rfl) o.id
  rw [form, Form.written]
  simp only [Form.writtenFields_orDefault, hid]
  rfl

/-- **Options are read from what their form admits.** -/
theorem ofJson?_of_admits (o : CompileOptions) (h : o.form.Admits j) : ofJson? j = some o := by
  obtain ⟨members, rfl, hfields⟩ := h.exists_members
  have hscope := h.optional_eq (.head _) fun _ => Form.Admits.bool?_eq
  have hid := h.optional_eq (.tail _ (.head _)) fun _ hid =>
    hid.nullable?_eq (fun _ hnull => by cases hnull) fun _ _ => Form.Admits.string?_eq
  have hstrategy := h.optional_eq (.tail _ (.tail _ (.head _))) fun _ hstrategy => by
    cases hstrategy
    exact o.idStrategy.ofJson?_toJson
  rw [ofJson?, hfields]
  simp only [List.map_cons, List.map_nil, hscope, hid, hstrategy, Option.bind_eq_bind,
    Option.bind_some]
  rfl

end CompileOptions

namespace Bundle.PluginOptions

/-- The form of plugin settings. Both need not be given if they are as they are by default. -/
def form (o : PluginOptions) : Form :=
  .record [.orDefault "extension" o.extension ".sfc".toList (.value (.string o.extension)),
    .orDefault "compile" o.compile {} o.compile.form]

/-- So have those of plugin settings and of the options in them. -/
lemma distinct_form (o : PluginOptions) : o.form.Distinct := by
  have hcompile := o.compile.distinct_form
  simpa [form] using hcompile

/-- **Plugin settings are encoded in their form.** -/
lemma written_form (o : PluginOptions) : o.form.written = o.toJson := by
  rw [form, Form.written]
  simp only [Form.writtenFields_orDefault, CompileOptions.written_form]
  rfl

/-- **Plugin settings are read from what their form admits.** -/
theorem ofJson?_of_admits (o : PluginOptions) (h : o.form.Admits j) : ofJson? j = some o := by
  obtain ⟨members, rfl, hfields⟩ := h.exists_members
  have hextension := h.optional_eq (.head _) fun _ => Form.Admits.string?_eq
  have hcompile := h.optional_eq (.tail _ (.head _)) fun _ => o.compile.ofJson?_of_admits
  rw [ofJson?, hfields]
  simp only [List.map_cons, List.map_nil, hextension, hcompile, Option.bind_eq_bind,
    Option.bind_some]
  rfl

end Bundle.PluginOptions

/-! ### Errors -/

namespace CompileError

/-- The form of an error in a block. -/
def blockForm (kind : String) (range : Span) (message : Text) : Form :=
  .record [.needed "kind" (.value (.ofString kind)), .needed "range" range.form,
    .needed "message" (.value (.string message))]

/-- The form of an error. -/
def form : CompileError → Form
  | .markup offset message =>
    .record [.needed "kind" (.value (.ofString "markupSyntax")),
      .needed "offset" (.value (.nat offset)), .needed "message" (.value (.string message))]
  | .script range message => blockForm "scriptSyntax" range message
  | .style range message => blockForm "styleSyntax" range message

/-- The fields of an error have different names, whatever its kind. -/
lemma distinct_form (e : CompileError) : e.form.Distinct := by
  cases e <;> simp [form, blockForm]

/-- **Errors are encoded in their form.** -/
lemma written_form (e : CompileError) : e.form.written = e.toJson := by
  cases e <;> rfl

/-- A range and a message are read as an error in a block. -/
lemma blockOfJson?_of_admits {kind : String} {range : Span} {message : Text}
    (h : (blockForm kind range message).Admits j) (error : Span → Text → CompileError) :
    ∃ record, j.tagged? "kind" = some (kind.toList, record) ∧
      blockOfJson? error record = some (error range message) := by
  obtain ⟨members, htagged, hrecord⟩ := h.tagged?_eq (by simp)
  obtain ⟨_, heq, hfields⟩ := hrecord.exists_members
  have hrange := hrecord.required_eq (.head _) fun _ => range.ofJson?_of_admits
  have hmessage := hrecord.required_eq (.tail _ (.head _)) fun _ => Form.Admits.string?_eq
  refine ⟨_, htagged, ?_⟩
  rw [blockOfJson?, hfields]
  cases heq
  simp only [List.map_cons, List.map_nil, hrange, hmessage, Option.bind_eq_bind, Option.bind_some]
  rfl

/-- **Errors are read from what their form admits.** -/
theorem ofJson?_of_admits (e : CompileError) (h : e.form.Admits j) : ofJson? j = some e := by
  cases e with
  | markup offset message =>
    obtain ⟨members, htagged, hrecord⟩ := h.tagged?_eq (distinct_form (.markup offset message))
    rw [ofJson?, htagged, Option.bind_eq_bind, Option.bind_some]
    show (if _ then _ else _) = _
    rw [if_pos rfl, hrecord.fields?_pair]
    rfl
  | script range message =>
    obtain ⟨record, htagged, hblock⟩ := blockOfJson?_of_admits h CompileError.script
    rw [ofJson?, htagged, Option.bind_eq_bind, Option.bind_some]
    exact hblock
  | style range message =>
    obtain ⟨record, htagged, hblock⟩ := blockOfJson?_of_admits h CompileError.style
    rw [ofJson?, htagged, Option.bind_eq_bind, Option.bind_some]
    exact hblock

end CompileError

/-! ### Buckets -/

namespace Piece

/-- The form of a piece. One that was made need not say that it has no range. -/
def form (p : Piece) : Form :=
  .record [.needed "text" (.value (.string p.text)),
    .orDefault "range" p.range none (.orNull Span.form p.range)]

/-- The fields of a piece have different names. -/
lemma distinct_form (p : Piece) : p.form.Distinct := by
  have hrange := Form.distinct_orNull Span.distinct_form p.range
  simpa [form] using hrange

/-- A piece is encoded in its form, with null for no range. -/
lemma written_form (p : Piece) : p.form.written = p.toJson := by
  have hrange := Form.written_orNull Span.written_form p.range
  rw [form, Form.written]
  simp only [Form.writtenFields_needed, Form.writtenFields_orDefault, hrange]
  rfl

/-- A piece is read from what its form admits. -/
lemma ofJson?_of_admits (p : Piece) (h : p.form.Admits j) : ofJson? j = some p := by
  obtain ⟨members, rfl, hfields⟩ := h.exists_members
  have htext := h.required_eq (.head _) fun _ => Form.Admits.string?_eq
  have hrange := h.optional_eq (.tail _ (.head _)) fun _ hrange =>
    hrange.nullable?_eq (fun _ hnull => by cases hnull) fun span _ => span.ofJson?_of_admits
  rw [ofJson?, h.fullFields?_eq, hfields]
  simp only [List.map_cons, List.map_nil, htext, hrange, Option.bind_eq_bind, Option.bind_some]
  rfl

end Piece

/-- A template shape is read by its name. -/
lemma TemplateShape.ofJson?_toJson (shape : TemplateShape) : ofJson? shape.toJson = some shape := by
  cases shape <;> rfl

namespace Buckets

/-- The form of buckets. The template shape need not be given if nothing renders. -/
def form (b : Buckets) : Form :=
  .record [.needed "imports" (.list (b.imports.map Piece.form)),
    .needed "moduleBody" (.list (b.moduleBody.map Piece.form)),
    .needed "instanceBody" (.list (b.instanceBody.map Piece.form)),
    .needed "template" (.list (b.template.map Piece.form)),
    .needed "styles" (.list (b.styles.map Piece.form)),
    .orDefault "templateShape" b.shape .empty (.value b.shape.toJson)]

/-- The fields of buckets have different names, and so have those of their pieces. -/
lemma distinct_form (b : Buckets) : b.form.Distinct := by
  simp [form, Piece.distinct_form]

/-- **Buckets are encoded in their form.** -/
lemma written_form (b : Buckets) : b.form.written = b.toJson := by
  have hpieces : ∀ pieces : List Piece, (Form.list (pieces.map Piece.form)).written =
      .array (pieces.map Piece.toJson) := fun pieces => Form.written_list_map Piece.written_form
  rw [form, Form.written]
  simp only [Form.writtenFields_needed, Form.writtenFields_orDefault, hpieces]
  rfl

/-- **Buckets are read from what their form admits.** -/
theorem ofJson?_of_admits (b : Buckets) (h : b.form.Admits j) : ofJson? j = some b := by
  obtain ⟨members, rfl, hfields⟩ := h.exists_members
  have hpieces : ∀ (pieces : List Piece) j, (Form.list (pieces.map Piece.form)).Admits j →
      j.list? Piece.ofJson? = some pieces :=
    fun pieces j hlist => hlist.list?_eq fun p _ => p.ofJson?_of_admits
  have himports := h.required_eq (.head _) (hpieces b.imports)
  have hmoduleBody := h.required_eq (.tail _ (.head _)) (hpieces b.moduleBody)
  have hinstanceBody := h.required_eq (.tail _ (.tail _ (.head _))) (hpieces b.instanceBody)
  have htemplate := h.required_eq (.tail _ (.tail _ (.tail _ (.head _)))) (hpieces b.template)
  have hstyles := h.required_eq (.tail _ (.tail _ (.tail _ (.tail _ (.head _)))))
    (hpieces b.styles)
  have hshape := h.optional_eq (.tail _ (.tail _ (.tail _ (.tail _ (.tail _ (.head _))))))
    fun _ hshape => by
      cases hshape
      exact b.shape.ofJson?_toJson
  rw [ofJson?, hfields]
  simp only [List.map_cons, List.map_nil, himports, hmoduleBody, hinstanceBody, htemplate, hstyles,
    hshape, Option.bind_eq_bind, Option.bind_some]
  rfl

end Buckets

end OneFile
