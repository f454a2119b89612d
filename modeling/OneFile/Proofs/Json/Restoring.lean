import OneFile.Proofs.Json.Reading
import OneFile.Proofs.Json.Records

/-!
# Decoding undoes encoding

Every record that goes to other programs comes back as it was. It does so as a value, whatever its
numbers and however deep it is, and also after changes that its form allows. It does so as text, as
long as the text can be read: the numbers are below 2^64, and markup is not too deep.

## Main definitions

* `OneFile.Markup.Node.maxLevels` — how deep markup may be for its text to be read.
* `OneFile.Json.Restores` — all that is said of one record.
* `OneFile.Json.RoundTrip` — that it holds of the whole data model.

## Main results

* `OneFile.Markup.Node.legible_toJson` and its like — records whose text can be read.
* `OneFile.Json.roundTrip` — the data model comes back as it was.
-/

namespace OneFile

open Json

variable {depth : Nat}

/-! ### Records whose text can be read -/

namespace Json

/-- Room for more depth does no harm. -/
lemma Legible.mono {depth' : Nat} {j : Json} (h : Legible depth j) (hle : depth ≤ depth') :
    Legible depth' j := by
  induction h generalizing depth' with
  | null => exact .null
  | bool b => exact .bool b
  | nat hn => exact .nat hn
  | string s => exact .string s
  | array hitems ih =>
    cases depth' with
    | zero => omega
    | succ depth' => exact .array fun item hitem => ih item hitem (by omega)
  | object hnames hmembers ih =>
    cases depth' with
    | zero => omega
    | succ depth' => exact .object hnames fun member hmember => ih member hmember (by omega)

/-- An array is one level deeper than its items. -/
lemma legible_map {α : Type} {items : List α} {encode : α → Json}
    (h : ∀ a ∈ items, Legible depth (encode a)) :
    Legible (depth + 1) (.array (items.map encode)) := by
  refine .array fun item hitem => ?_
  obtain ⟨a, ha, rfl⟩ := List.mem_map.1 hitem
  exact h a ha

/-- Null is as legible as any value. -/
lemma legible_ofOption {α : Type} {encode : α → Json} {o : Option α}
    (h : ∀ a ∈ o, Legible depth (encode a)) : Legible depth (.ofOption encode o) := by
  cases o with
  | none => exact .null
  | some a => exact h a rfl

/-- An object is one level deeper than its members, whose names differ. -/
lemma legible_ofMembers {members : List (String × Json)}
    (hnames : (members.map Prod.fst).Nodup)
    (h : ∀ member ∈ members, Legible depth member.2) :
    Legible (depth + 1) (.ofMembers members) := by
  refine .object ?_ fun member hmember => ?_
  · have htexts : ((members.map Prod.fst).map String.toList).Nodup :=
      hnames.map fun _ _ heq => String.toList_inj.1 heq
    rw [List.map_map] at htexts ⊢
    exact htexts
  · obtain ⟨m, hm, rfl⟩ := List.mem_map.1 hmember
    exact h m hm

end Json

/-- A span whose ends are numbers below 2^64. -/
def Span.Small (span : Span) : Prop := span.start < Nat.pow 2 64 ∧ span.stop < Nat.pow 2 64

/-- The text of a span can be read. -/
lemma Span.legible_toJson {span : Span} (h : span.Small) :
    Json.Legible (depth + 1) span.toJson := by
  refine Json.legible_ofMembers (by simp) ?_
  simp [Json.Legible.nat h.1, Json.Legible.nat h.2]

namespace Markup

/-- The text of a stretch of an attribute value can be read. -/
lemma ValuePart.legible_toJson (part : ValuePart) : Json.Legible (depth + 1) part.toJson := by
  cases part <;> exact Json.legible_ofMembers (by simp) (by simp [ofString, Json.Legible.string])

/-- So can that of what an attribute is set to. -/
lemma AttributeValue.legible_toJson (value : AttributeValue) :
    Json.Legible (depth + 3) value.toJson := by
  cases value with
  | empty => exact Json.legible_ofMembers (by simp) (by simp [ofString, Json.Legible.string])
  | text parts =>
    have hparts : Json.Legible (depth + 2) (.array (parts.map ValuePart.toJson)) :=
      Json.legible_map fun part _ => part.legible_toJson
    exact Json.legible_ofMembers (by simp) (by simp [ofString, Json.Legible.string, hparts])
  | expression source =>
    exact Json.legible_ofMembers (by simp) (by simp [ofString, Json.Legible.string])

/-- So can that of an attribute, with two levels for the stretches of its value. -/
lemma Attribute.legible_toJson {a : Attribute} (h : a.span.Small) :
    Json.Legible (depth + 4) a.toJson := by
  have hvalue : Json.Legible (depth + 3) a.value.toJson := a.value.legible_toJson
  have hspan : Json.Legible (depth + 3) a.span.toJson := Span.legible_toJson h
  exact Json.legible_ofMembers (by simp) (by simp [Json.Legible.string, hvalue, hspan])

/-- **A node that is not too deep** for its text to be read: elements lie in each other only so many
times. All its spans have ends below 2^64. -/
inductive Node.Shallow : Nat → Node → Prop
  | element {levels : Nat} {tag : Tag} {children : List Node} {span : Span}
      (hattributes : ∀ a ∈ tag.attributes, a.span.Small)
      (hchildren : ∀ node ∈ children, Shallow levels node) (hspan : span.Small) :
      Shallow (levels + 1) (.element tag children span)
  | text {levels : Nat} {value : Text} {span : Span} (hspan : span.Small) :
      Shallow levels (.text value span)
  | expression {levels : Nat} {source : Text} {span : Span} (hspan : span.Small) :
      Shallow levels (.expression source span)
  | comment {levels : Nat} {value : Text} {span : Span} (hspan : span.Small) :
      Shallow levels (.comment value span)

namespace Node

/-- Nodes are encoded one by one. -/
lemma toJsonAll_eq_map (nodes : List Node) : toJsonAll nodes = nodes.map toJson := by
  induction nodes with
  | nil => rfl
  | cons node nodes ih => rw [toJsonAll, ih, List.map_cons]

/-- The text of a leaf can be read. -/
lemma legible_leaf {kind member : String} {value : Text} {span : Span}
    (hnames : ["type", member, "span"].Nodup) (h : span.Small) :
    Json.Legible (depth + 2) (.ofMembers [("type", .ofString kind), (member, .string value),
      ("span", span.toJson)]) := by
  have hspan : Json.Legible (depth + 1) span.toJson := Span.legible_toJson h
  exact Json.legible_ofMembers hnames (by simp [ofString, Json.Legible.string, hspan])

/-- **The text of a node** that is not too deep can be read. -/
lemma legible_toJson {levels : Nat} {node : Node} (h : node.Shallow levels) :
    Json.Legible (2 * levels + 4) node.toJson := by
  induction h with
  | @element levels tag children span hattributes _ hspan ih =>
    have hattributes :
        Json.Legible (2 * levels + 5) (.array (tag.attributes.map Attribute.toJson)) := by
      refine Json.legible_map fun a ha => ?_
      have hattribute : Json.Legible (0 + 4) a.toJson := Attribute.legible_toJson (hattributes a ha)
      exact hattribute.mono (by omega)
    have hchildren : Json.Legible (2 * levels + 5) (.array (toJsonAll children)) := by
      rw [toJsonAll_eq_map]
      exact Json.legible_map ih
    have hspan : Json.Legible (2 * levels + 5) span.toJson := Span.legible_toJson hspan
    have hroom : 2 * (levels + 1) + 4 = 2 * levels + 5 + 1 := by omega
    rw [hroom]
    refine Json.legible_ofMembers (by simp) ?_
    simp [ofString, Json.Legible.string, Json.Legible.bool, hattributes, hchildren, hspan]
  | text hspan => exact legible_leaf (by decide) hspan
  | expression hspan => exact legible_leaf (by decide) hspan
  | comment hspan => exact legible_leaf (by decide) hspan

/-- How many times elements may lie in each other in a text that can be read. Each of them takes two
levels, its own and that of its children, and there have to be four more for the attributes of the
innermost one. -/
def maxLevels : Nat := (maxDepth - 4) / 2

/-- **The text of a node** within that limit can be read. -/
lemma legible_toJson_of_maxLevels {node : Node} (h : node.Shallow maxLevels) :
    Json.Legible maxDepth node.toJson :=
  (legible_toJson h).mono (by decide)

end Node

end Markup

/-- **The text of options** can always be read. -/
lemma CompileOptions.legible_toJson (o : CompileOptions) : Json.Legible (depth + 1) o.toJson := by
  have hid : Json.Legible depth (.ofOption .string o.id) :=
    Json.legible_ofOption fun id _ => .string id
  have hstrategy : Json.Legible depth o.idStrategy.toJson := by
    cases o.idStrategy <;> exact .string _
  exact Json.legible_ofMembers (by simp) (by simp [Json.Legible.bool, hid, hstrategy])

/-- **The text of plugin settings** can always be read. -/
lemma Bundle.PluginOptions.legible_toJson (o : PluginOptions) :
    Json.Legible (depth + 2) o.toJson := by
  have hcompile : Json.Legible (depth + 1) o.compile.toJson := o.compile.legible_toJson
  exact Json.legible_ofMembers (by simp) (by simp [Json.Legible.string, hcompile])

/-- An error at a place below 2^64. -/
def CompileError.Small : CompileError → Prop
  | .markup offset _ => offset < Nat.pow 2 64
  | .script range _ => range.Small
  | .style range _ => range.Small

/-- **The text of an error** can be read. -/
lemma CompileError.legible_toJson {e : CompileError} (h : e.Small) :
    Json.Legible (depth + 2) e.toJson := by
  cases e with
  | markup offset message =>
    exact Json.legible_ofMembers (by simp)
      (by simp [ofString, Json.Legible.string, Json.Legible.nat h])
  | script range message =>
    have hrange : Json.Legible (depth + 1) range.toJson := Span.legible_toJson h
    exact Json.legible_ofMembers (by simp) (by simp [ofString, Json.Legible.string, hrange])
  | style range message =>
    have hrange : Json.Legible (depth + 1) range.toJson := Span.legible_toJson h
    exact Json.legible_ofMembers (by simp) (by simp [ofString, Json.Legible.string, hrange])

/-- The text of a piece can be read. -/
lemma Piece.legible_toJson {p : Piece} (h : ∀ range ∈ p.range, range.Small) :
    Json.Legible (depth + 2) p.toJson := by
  have hrange : Json.Legible (depth + 1) (.ofOption Span.toJson p.range) :=
    Json.legible_ofOption fun range hrange => Span.legible_toJson (h range hrange)
  exact Json.legible_ofMembers (by simp) (by simp [Json.Legible.string, hrange])

/-- All the pieces in buckets. -/
def Buckets.allPieces (b : Buckets) : List Piece :=
  b.imports ++ b.moduleBody ++ b.instanceBody ++ b.template ++ b.styles

/-- Buckets whose pieces have ranges with ends below 2^64. -/
def Buckets.Small (b : Buckets) : Prop := ∀ p ∈ b.allPieces, ∀ range ∈ p.range, range.Small

/-- **The text of buckets** can be read. -/
lemma Buckets.legible_toJson {b : Buckets} (h : b.Small) : Json.Legible (depth + 4) b.toJson := by
  have hpieces : ∀ pieces : List Piece, pieces ⊆ b.allPieces →
      Json.Legible (depth + 3) (.array (pieces.map Piece.toJson)) := by
    intro pieces hsubset
    exact Json.legible_map fun p hp => Piece.legible_toJson (h p (hsubset hp))
  have hshape : Json.Legible (depth + 3) b.shape.toJson := by
    cases b.shape <;> exact .string _
  refine Json.legible_ofMembers (by simp) ?_
  simp only [List.forall_mem_cons]
  refine ⟨hpieces _ ?_, hpieces _ ?_, hpieces _ ?_, hpieces _ ?_, hpieces _ ?_, hshape, by simp⟩
  all_goals
    intro p hp
    simp [allPieces, hp]

/-! ### All of the data model -/

namespace Json

/-- **Decoding undoes encoding** for `a`. Its form says what may be changed, and `Small` when its
text can be read. -/
structure Restores {α : Type} (encode : α → Json) (decode : Json → Option α) (form : α → Form)
    (Small : α → Prop) (a : α) : Prop where
  /-- What is encoded is the form as it is written. -/
  encoded : encode a = (form a).written
  /-- The value that is encoded is decoded as it was. -/
  decoded : decode (encode a) = some a
  /-- So it is after members that are no fields were put in, and fields that are as they are by
  default were left out, in any of its records and as often as one likes. -/
  changed (j : Json) : Relation.ReflTransGen (form a).Change (encode a) j → decode j = some a
  /-- So it is for whatever the form admits, with the members of a record in any order. -/
  admitted (j : Json) : (form a).Admits j → decode j = some a
  /-- It comes back from the text that it is written as. -/
  reread : Small a → (read? (encode a).write).bind decode = some a
  /-- So it does from the text of any such value, if that text can be read. -/
  rereadAdmitted (j : Json) : (form a).Admits j → Legible maxDepth j →
    (read? j.write).bind decode = some a

/-- What the form admits decides all. -/
lemma restores_of_admits {α : Type} {encode : α → Json} {decode : Json → Option α}
    {form : α → Form} {Small : α → Prop} {a : α} (hdistinct : (form a).Distinct)
    (hencode : (form a).written = encode a) (hdecode : ∀ j, (form a).Admits j → decode j = some a)
    (hlegible : Small a → Legible maxDepth (encode a)) :
    Restores encode decode form Small a := by
  have hadmits : (form a).Admits (encode a) := hencode ▸ Form.admits_written hdistinct
  have hreread : ∀ j, (form a).Admits j → Legible maxDepth j →
      (read? j.write).bind decode = some a := by
    intro j hj hread
    rw [read?_write hread, Option.bind_some]
    exact hdecode j hj
  exact
    { encoded := hencode.symm
      decoded := hdecode _ hadmits
      changed := fun j hchanges => hdecode j (hadmits.changes hdistinct hchanges)
      admitted := hdecode
      reread := fun hsmall => hreread _ hadmits (hlegible hsmall)
      rereadAdmitted := hreread }

/-- **The whole data model** comes back from JSON as it was. -/
structure RoundTrip : Prop where
  node (node : Markup.Node) : Restores Markup.Node.toJson Markup.Node.ofJson? Markup.Node.form
    (Markup.Node.Shallow Markup.Node.maxLevels) node
  buckets (b : Buckets) : Restores Buckets.toJson Buckets.ofJson? Buckets.form Buckets.Small b
  compileOptions (o : CompileOptions) : Restores CompileOptions.toJson CompileOptions.ofJson?
    CompileOptions.form (fun _ => True) o
  pluginOptions (o : Bundle.PluginOptions) : Restores Bundle.PluginOptions.toJson
    Bundle.PluginOptions.ofJson? Bundle.PluginOptions.form (fun _ => True) o
  compileError (e : CompileError) : Restores CompileError.toJson CompileError.ofJson?
    CompileError.form CompileError.Small e

/-- **Decoding undoes encoding over the whole data model.** -/
theorem roundTrip : RoundTrip where
  node node := restores_of_admits node.distinct_form node.written_form
    (fun _ => node.ofJson?_of_admits) Markup.Node.legible_toJson_of_maxLevels
  buckets b := restores_of_admits b.distinct_form b.written_form
    (fun _ => b.ofJson?_of_admits) Buckets.legible_toJson
  compileOptions o := restores_of_admits o.distinct_form o.written_form
    (fun _ => o.ofJson?_of_admits) fun _ => o.legible_toJson
  pluginOptions o := restores_of_admits o.distinct_form o.written_form
    (fun _ => o.ofJson?_of_admits) fun _ => o.legible_toJson
  compileError e := restores_of_admits e.distinct_form e.written_form
    (fun _ => e.ofJson?_of_admits) CompileError.legible_toJson

end Json

end OneFile
