import OneFile.Proofs.Markup.Lossless

/-!
# Trees that can be written and read back

Not every tree is what some source reads as: text may hold a brace, a name may hold a blank. This
module says which trees are spared such trouble, and what can be compared between a tree and what
its text reads as.

## Main definitions

* `OneFile.Markup.Node.recast` — a tree at no place, with its attribute values changed.
* `OneFile.Markup.SameUpToSpans` — trees that differ in their places only.
* `OneFile.Markup.Tag.Legible` — tags with names that are read to their ends.
* `OneFile.Markup.EndsInSlash` — attributes that a closing bracket must not follow.
* `OneFile.Markup.Node.WellFormed`, `OneFile.Markup.WellFormedNodes` — trees whose text keeps
  their parts apart.
* `OneFile.Markup.AttributeValue.reread` — what the text of a value reads as.
* `OneFile.Markup.AttributeValue.Readable` — values that are what their text reads as.

## Main results

* `OneFile.Markup.recastAll_eq_iff` — a change of values shows in the tree unless it changes none.
* `OneFile.Markup.AttributeValue.reread_eq_iff` — when a value comes back from its text.

## Design

Text and names can be judged on their own, before anything is written. A quoted value cannot: it
comes back split at its braces whatever its parts were, and with its double quotes written as
entities when it holds both kinds. So well-formed trees may have any such value, and readability
is a condition of its own.
-/

namespace OneFile.Markup

/-! ### Trees without their places -/

/-- The attribute at no place, with its value changed by `f`. -/
def Attribute.recast (f : AttributeValue → AttributeValue) (a : Attribute) : Attribute :=
  { name := a.name, value := f a.value }

/-- The tag with its attributes at no place and their values changed by `f`. -/
def Tag.recast (f : AttributeValue → AttributeValue) (tag : Tag) : Tag :=
  { tag with attributes := tag.attributes.map (Attribute.recast f) }

/-- The values of the attributes of a tag. -/
def Tag.values (tag : Tag) : List AttributeValue := tag.attributes.map Attribute.value

namespace Node

mutual

/-- The node at no place, with all attribute values changed by `f`. -/
def recast (f : AttributeValue → AttributeValue) : Node → Node
  | .element tag children _ => .element (tag.recast f) (recastAll f children) {}
  | .text value _ => .text value {}
  | .expression source _ => .expression source {}
  | .comment value _ => .comment value {}

/-- The nodes at no place, with all attribute values changed by `f`. -/
def recastAll (f : AttributeValue → AttributeValue) : List Node → List Node
  | [] => []
  | node :: nodes => recast f node :: recastAll f nodes

end

mutual

/-- The attribute values of a node and of all nodes below it. -/
def values : Node → List AttributeValue
  | .element tag children _ => tag.values ++ valuesAll children
  | .text .. | .expression .. | .comment .. => []

/-- The attribute values of some nodes and of all nodes below them. -/
def valuesAll : List Node → List AttributeValue
  | [] => []
  | node :: nodes => values node ++ valuesAll nodes

end

end Node

/-- **Same up to spans**: two lists of nodes that differ in their places only. -/
def SameUpToSpans (nodes nodes' : List Node) : Prop :=
  Node.recastAll id nodes = Node.recastAll id nodes'

/-- Whether lists of nodes are the same up to their spans. -/
instance (nodes nodes' : List Node) : Decidable (SameUpToSpans nodes nodes') :=
  inferInstanceAs (Decidable (_ = _))

/-- A change of values shows in a tag unless it changes none of its values. -/
lemma Tag.recast_eq_iff {f : AttributeValue → AttributeValue} {tag : Tag} :
    tag.recast f = tag.recast id ↔ ∀ v ∈ tag.values, f v = v := by
  obtain ⟨name, as, closed⟩ := tag
  simp [Tag.recast, Tag.values, Attribute.recast]

mutual

/-- A change of values shows in a node unless it changes none of its values. -/
lemma recast_eq_iff {f : AttributeValue → AttributeValue} (node : Node) :
    node.recast f = node.recast id ↔ ∀ v ∈ node.values, f v = v := by
  cases node with
  | element tag children span =>
    simp only [Node.recast, Node.values, Node.element.injEq, Tag.recast_eq_iff,
      recastAll_eq_iff children, and_true, List.mem_append, or_imp, forall_and]
  | text value span => simp [Node.recast, Node.values]
  | expression source span => simp [Node.recast, Node.values]
  | comment value span => simp [Node.recast, Node.values]

/-- **A change of values shows in a tree unless it changes none of its values.** -/
lemma recastAll_eq_iff {f : AttributeValue → AttributeValue} (nodes : List Node) :
    Node.recastAll f nodes = Node.recastAll id nodes ↔ ∀ v ∈ Node.valuesAll nodes, f v = v := by
  cases nodes with
  | nil => simp [Node.recastAll, Node.valuesAll]
  | cons node nodes =>
    simp only [Node.recastAll, Node.valuesAll, List.cons.injEq, recast_eq_iff node,
      recastAll_eq_iff nodes, List.mem_append, or_imp, forall_and]

end

/-! ### Well-formed trees -/

/-- An element name: a letter, and then characters of names. -/
def IsElementName (name : Text) : Prop :=
  (∃ c ∈ name.head?, c.isAlpha = true) ∧ ∀ c ∈ name, isNameChar c = true

/-- An attribute name: no blanks, none of the characters that end a name, and no slash that the
bracket of the tag could follow. -/
structure IsAttributeName (name : Text) : Prop where
  ne_nil : name ≠ []
  free : ∀ c ∈ name, Text.isSpace c = false ∧ c ∉ ['=', '>', '"', '\'', '\x7b', '<']
  no_close : ¬ "/>".toList <:+: name
  last_ne : name.getLast? ≠ some '/'

/-- An attribute whose name, and whose expression if it has one, are read to their ends. -/
def Attribute.WellFormed (a : Attribute) : Prop :=
  IsAttributeName a.name ∧ ∀ source, a.value = .expression source → Brace.Closed source

/-- A tag with names and expressions that are read to their ends, and closed if it is void. -/
structure Tag.WellFormed (tag : Tag) : Prop where
  name : IsElementName tag.name
  closed_of_void : isVoid tag.name = true → tag.selfClosing = true
  attributes : ∀ a ∈ tag.attributes, a.WellFormed

/-- An attribute whose name holds nothing that ends a name, and whose expression if it has one is
read to its end. -/
structure Attribute.Legible (a : Attribute) : Prop where
  ne_nil : a.name ≠ []
  free : ∀ c ∈ a.name, Text.isSpace c = false ∧ c ∉ ['=', '>', '"', '\'', '\x7b', '<']
  closed : ∀ source, a.value = .expression source → Brace.Closed source

/-- A tag with the name of an element and legible attributes, and closed if it is void. -/
structure Tag.Legible (tag : Tag) : Prop where
  name : IsElementName tag.name
  closed_of_void : isVoid tag.name = true → tag.selfClosing = true
  attributes : ∀ a ∈ tag.attributes, a.Legible

/-- Attributes that end in a slash: the last one is a name alone, and a bracket right behind it
would close the tag together with its last character. -/
def EndsInSlash (as : List Attribute) : Prop :=
  ∃ a ∈ as.getLast?, a.value = .empty ∧ a.name.getLast? = some '/'

/-- Whether the last attribute ends in a slash. -/
instance (as : List Attribute) : Decidable (EndsInSlash as) :=
  inferInstanceAs (Decidable (∃ a ∈ as.getLast?, _))

/-- An attribute that is well formed can be read. -/
lemma Attribute.WellFormed.legible {a : Attribute} (h : a.WellFormed) : a.Legible :=
  ⟨h.1.ne_nil, h.1.free, h.2⟩

/-- So can a tag. -/
lemma Tag.WellFormed.legible {tag : Tag} (h : tag.WellFormed) : tag.Legible :=
  ⟨h.name, h.closed_of_void, fun a ha => (h.attributes a ha).legible⟩

/-- No name in a well-formed tag ends in a slash. -/
lemma Tag.WellFormed.not_endsInSlash {tag : Tag} (h : tag.WellFormed) :
    ¬ EndsInSlash tag.attributes := by
  rintro ⟨a, ha, -, hlast⟩
  exact (h.attributes a (List.mem_of_getLast? ha)).1.last_ne hlast

/-- Text that neither a brace nor markup cuts short. -/
structure IsPlainText (value : Text) : Prop where
  ne_nil : value ≠ []
  no_brace : '{' ∉ value
  no_markup : ∀ c : Char, (c.isAlpha = true ∨ c = '/' ∨ c = '!') → ¬ ['<', c] <:+: value

/-- The body of a raw element: nothing, or one text that does not hold the start of the close
tag. -/
def IsRawBody (name : Text) (children : List Node) : Prop :=
  children = [] ∨ ∃ body span, children = [.text body span] ∧ body ≠ [] ∧
    ¬ ("</".toList ++ name) <:+: body

/-- **A well-formed node**: at every depth its parts are kept apart by what is written between
them. There are no comments in it. -/
inductive Node.WellFormed : Node → Prop
  | text {value : Text} {span : Span} (hvalue : IsPlainText value) : WellFormed (.text value span)
  | expression {source : Text} {span : Span} (hsource : Brace.Closed source) :
      WellFormed (.expression source span)
  | closed {tag : Tag} {span : Span} (htag : tag.WellFormed) (hclosed : tag.selfClosing = true) :
      WellFormed (.element tag [] span)
  | raw {tag : Tag} {children : List Node} {span : Span} (htag : tag.WellFormed)
      (hopen : tag.selfClosing = false) (hraw : isRaw tag.name = true)
      (hbody : IsRawBody tag.name children) : WellFormed (.element tag children span)
  | element {tag : Tag} {children : List Node} {span : Span} (htag : tag.WellFormed)
      (hopen : tag.selfClosing = false) (hraw : isRaw tag.name = false)
      (hapart : TextsApart children) (hchildren : ∀ child ∈ children, WellFormed child) :
      WellFormed (.element tag children span)

/-- **Well-formed nodes**: each of them is, and no two texts are neighbours. -/
structure WellFormedNodes (nodes : List Node) : Prop where
  apart : TextsApart nodes
  each : ∀ node ∈ nodes, node.WellFormed

/-! ### Values and their text -/

/-- What is written between the quotes of a value. -/
def betweenQuotes (value : Text) : Text :=
  if '"' ∈ value ∧ '\'' ∈ value then
    value.flatMap fun c => if c = '"' then "&quot;".toList else [c]
  else value

/-- No double quotes are left of a value that held both kinds. -/
lemma double_notMem_betweenQuotes {value : Text} (h : '"' ∈ value ∧ '\'' ∈ value) :
    '"' ∉ betweenQuotes value := by
  rw [betweenQuotes, if_pos h]
  intro hmem
  obtain ⟨c, -, hc⟩ := List.mem_flatMap.1 hmem
  split_ifs at hc with hquote
  · exact absurd hc (by decide)
  · exact hquote (List.mem_singleton.1 hc).symm

/-- A value is written between quotes of a kind that it does not hold by then. -/
lemma exists_quoted_eq (value : Text) : ∃ quote, (quote = '"' ∨ quote = '\'') ∧
    quote ∉ betweenQuotes value ∧ quoted value = quote :: betweenQuotes value ++ [quote] := by
  unfold quoted
  simp only [List.contains_eq_mem, decide_eq_true_eq]
  by_cases hdouble : '"' ∈ value
  · by_cases hsingle : '\'' ∈ value
    · refine ⟨'"', .inl rfl, double_notMem_betweenQuotes ⟨hdouble, hsingle⟩, ?_⟩
      rw [if_pos hdouble, if_pos hsingle, betweenQuotes, if_pos ⟨hdouble, hsingle⟩]
    · rw [if_pos hdouble, if_neg hsingle, betweenQuotes, if_neg fun h => hsingle h.2]
      exact ⟨'\'', .inr rfl, hsingle, rfl⟩
  · rw [if_neg hdouble, betweenQuotes, if_neg fun h => hdouble h.1]
    exact ⟨'"', .inl rfl, hdouble, rfl⟩

/-- What the text of a value reads as. -/
def AttributeValue.reread : AttributeValue → AttributeValue
  | .text parts => .text (valueParts (betweenQuotes (parts.flatMap ValuePart.render)))
  | value => value

/-- **A readable value**: it is split just where reading splits it, and does not hold both kinds
of quotes. -/
def AttributeValue.Readable : AttributeValue → Prop
  | .text parts => valueParts (parts.flatMap ValuePart.render) = parts ∧
      ¬ ('"' ∈ parts.flatMap ValuePart.render ∧ '\'' ∈ parts.flatMap ValuePart.render)
  | .empty | .expression _ => True

/-- **A value comes back from its text exactly when it is readable.** With both kinds of quotes
the double ones are lost, so what is read renders as something else. -/
lemma AttributeValue.reread_eq_iff {v : AttributeValue} : v.reread = v ↔ v.Readable := by
  cases v with
  | empty => simp [reread, Readable]
  | expression source => simp [reread, Readable]
  | text parts =>
    simp only [reread, Readable, AttributeValue.text.injEq]
    by_cases hboth : '"' ∈ parts.flatMap ValuePart.render ∧ '\'' ∈ parts.flatMap ValuePart.render
    · refine iff_of_false (fun heq => ?_) fun h => h.2 hboth
      have hrender := congrArg (List.flatMap ValuePart.render) heq
      rw [flatMap_render_valueParts] at hrender
      apply double_notMem_betweenQuotes hboth
      rw [hrender]
      exact hboth.1
    · rw [betweenQuotes, if_neg hboth]
      exact ⟨fun heq => ⟨heq, hboth⟩, fun h => h.1⟩

end OneFile.Markup
