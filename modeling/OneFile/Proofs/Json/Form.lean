import Mathlib.Data.List.Forall2
import Mathlib.Data.List.Nodup
import Mathlib.Logic.Relation
import OneFile.Json.Value

/-!
# How values are written as records

A form says how something is written as JSON, and what else is read as the same: a record may have
members that are not its fields, and a field may be left out if that is read as what it holds. So a
form has one way in which it is written, and admits many values. What it admits is told from the
members of each name alone, and every change that a form allows keeps to what it admits.

## Main definitions

* `OneFile.Json.Field`, `OneFile.Json.Form` — a form, and one of the fields of a record.
* `OneFile.Json.Form.written` — the value as it is written.
* `OneFile.Json.Form.Distinct` — no two fields of a record have the same name.
* `OneFile.Json.Form.Admits` — the values that the form admits.
* `OneFile.Json.Form.Change` — a member more that is no field, or a field less, in any record.

## Main results

* `OneFile.Json.Form.admits_written` — a form admits what is written.
* `OneFile.Json.Form.Admits.change`, `OneFile.Json.Form.Admits.changes` — one change keeps to what
  the form admits, and so do any number of them.
* `OneFile.Json.Form.Admits.required_eq`, `OneFile.Json.Form.Admits.optional_eq`,
  `OneFile.Json.Form.Admits.tagged?_eq` — how the fields of a record are read.
-/

namespace OneFile.Json

/-! ### Forms -/

/-- Whether a field is written, and whether it has to be there. -/
inductive Presence where
  /-- Written, and has to be there. -/
  | needed
  /-- Written, but may be left out. -/
  | spare
  /-- Not written, but may be there. -/
  | tacit
deriving DecidableEq, Repr

/-- A field of a record, with the form of what it holds. -/
structure Field (F : Type) where
  name : String
  presence : Presence
  form : F

/-- **How something is written.** -/
inductive Form where
  /-- Just that value. -/
  | value (j : Json)
  /-- An array. -/
  | list (items : List Form)
  /-- An object. -/
  | record (fields : List (Field Form))

/-- Something that is written as null if it is not there. -/
def Form.orNull {α : Type} (value : α → Form) : Option α → Form
  | none => .value .null
  | some a => value a

/-- A field that has to be there. -/
def Field.needed (name : String) (form : Form) : Field Form := ⟨name, .needed, form⟩

/-- A field that holds `a`, and may be left out if that is what it holds by default. -/
def Field.orDefault {α : Type} [DecidableEq α] (name : String) (a default : α) (form : Form) :
    Field Form :=
  ⟨name, if a = default then .spare else .needed, form⟩

namespace Field

variable (name : String) (form : Form)

/-- The name of a field that has to be there. -/
@[simp] lemma name_needed : (needed name form).name = name := rfl

/-- The form of a field that has to be there. -/
@[simp] lemma form_needed : (needed name form).form = form := rfl

variable {α : Type} [DecidableEq α] (a default : α)

/-- The name of a field that may be left out. -/
@[simp] lemma name_orDefault : (orDefault name a default form).name = name := rfl

/-- The form of a field that may be left out. -/
@[simp] lemma form_orDefault : (orDefault name a default form).form = form := rfl

end Field

namespace Form

mutual

/-- The value as it is written. -/
def written : Form → Json
  | .value j => j
  | .list items => .array (writtenAll items)
  | .record fields => .object (writtenFields fields)

/-- Forms as they are written, in their order. -/
def writtenAll : List Form → List Json
  | [] => []
  | item :: items => written item :: writtenAll items

/-- The members that the fields of a record are written as. -/
def writtenFields : List (Field Form) → List (Text × Json)
  | [] => []
  | ⟨name, presence, form⟩ :: fields =>
    if presence = .tacit then writtenFields fields
    else (name.toList, written form) :: writtenFields fields

end

/-- **No record has two fields of one name.** -/
inductive Distinct : Form → Prop
  | value (j : Json) : Distinct (.value j)
  | list {items : List Form} (hitems : ∀ item ∈ items, Distinct item) : Distinct (.list items)
  | record {fields : List (Field Form)} (hnames : (fields.map Field.name).Nodup)
      (hforms : ∀ field ∈ fields, Distinct field.form) : Distinct (.record fields)

/-- **What a form admits.** A record is told by the first member of each name. -/
inductive Admits : Form → Json → Prop
  | value (j : Json) : Admits (.value j) j
  | list {items : List Form} {js : List Json} (hitems : List.Forall₂ Admits items js) :
      Admits (.list items) (.array js)
  | record {fields : List (Field Form)} {members : List (Text × Json)}
      (hthere : ∀ field ∈ fields, ∀ j, lookup field.name.toList members = some j →
        Admits field.form j)
      (hmissing : ∀ field ∈ fields, lookup field.name.toList members = none →
        field.presence ≠ .needed) :
      Admits (.record fields) (.object members)

/-- **A change that a form allows**, somewhere in a value. -/
inductive Change : Form → Json → Json → Prop
  /-- A member more that is not a field, anywhere among the members. -/
  | add {fields : List (Field Form)} {before after : List (Text × Json)} {name : Text}
      (hname : ∀ field ∈ fields, field.name.toList ≠ name) (j : Json) :
      Change (.record fields) (.object (before ++ after)) (.object (before ++ (name, j) :: after))
  /-- A field less that does not have to be there. -/
  | leaveOut {fields : List (Field Form)} {field : Field Form} (hfield : field ∈ fields)
      (hspare : field.presence ≠ .needed) (members : List (Text × Json)) :
      Change (.record fields) (.object members)
        (.object (members.filter fun m => m.1 != field.name.toList))
  /-- A change in what a field holds. -/
  | member {fields : List (Field Form)} {field : Field Form} {j j' : Json}
      (hfield : field ∈ fields) (hchange : Change field.form j j')
      (before after : List (Text × Json)) :
      Change (.record fields) (.object (before ++ (field.name.toList, j) :: after))
        (.object (before ++ (field.name.toList, j') :: after))
  /-- A change in an item of an array. -/
  | item {form : Form} {j j' : Json} (hchange : Change form j j') {items : List Form}
      {before : List Json} (hlength : items.length = before.length) (items' : List Form)
      (after : List Json) :
      Change (.list (items ++ form :: items')) (.array (before ++ j :: after))
        (.array (before ++ j' :: after))

variable {fields : List (Field Form)} {field : Field Form} {members : List (Text × Json)}
  {name : Text} {form : Form} {j j' : Json}

/-- A value has no fields that could be alike. -/
@[simp] lemma distinct_value (j : Json) : (value j).Distinct := .value j

/-- The items of a list are looked at one by one. -/
@[simp] lemma distinct_list_iff {items : List Form} :
    (list items).Distinct ↔ ∀ item ∈ items, item.Distinct := by
  constructor
  · intro h
    cases h with
    | list hitems => exact hitems
  · exact .list

/-- The fields of a record have to differ in their names, and those within them have to, too. -/
@[simp] lemma distinct_record_iff : (record fields).Distinct ↔
    (fields.map Field.name).Nodup ∧ ∀ field ∈ fields, field.form.Distinct := by
  constructor
  · intro h
    cases h with
    | record hnames hforms => exact ⟨hnames, hforms⟩
  · exact fun h => .record h.1 h.2

/-- Null has no fields either. -/
lemma distinct_orNull {α : Type} {value : α → Form} (h : ∀ a, (value a).Distinct)
    (o : Option α) : (orNull value o).Distinct := by
  cases o with
  | none => exact .value _
  | some a => exact h a

/-! ### Members by their names -/

/-- A member is looked up from the first one on. -/
lemma lookup_cons (m : Text × Json) :
    lookup name (m :: members) = if m.1 = name then some m.2 else lookup name members := by
  by_cases h : m.1 = name <;> simp [lookup, h]

/-- What is not found among the first members is looked up among the others. -/
lemma lookup_append (before after : List (Text × Json)) :
    lookup name (before ++ after) = (lookup name before).or (lookup name after) := by
  rw [lookup, List.find?_append, lookup, lookup, Option.map_or]

/-- The members of another name are still there. -/
lemma lookup_filter_of_ne {tag : Text} (h : name ≠ tag) :
    lookup name (members.filter fun m => m.1 != tag) = lookup name members := by
  induction members with
  | nil => rfl
  | cons m members ih =>
    by_cases htag : m.1 = tag
    · have hname : m.1 ≠ name := fun heq => h (heq.symm.trans htag)
      rw [List.filter_cons_of_neg (by simpa using htag), ih, lookup_cons, if_neg hname]
    · rw [List.filter_cons_of_pos (by simpa using htag), lookup_cons, lookup_cons, ih]

/-- A member that is taken out is not found. -/
lemma lookup_filter_self : lookup name (members.filter fun m => m.1 != name) = none := by
  rw [lookup, Option.map_eq_none_iff, List.find?_eq_none]
  intro m hm
  simpa using (List.mem_filter.1 hm).2

/-- A name that no field has is not that of a field as a text either. -/
lemma toList_ne_of_notMem {name : String} (h : name ∉ fields.map Field.name)
    (hfield : field ∈ fields) : field.name.toList ≠ name.toList := by
  intro heq
  exact h (List.mem_map.2 ⟨field, hfield, String.toList_inj.1 heq⟩)

/-- No two fields have the same name as a text. -/
lemma eq_of_toList_eq (hnames : (fields.map Field.name).Nodup) {other : Field Form}
    (hfield : field ∈ fields) (hother : other ∈ fields)
    (h : other.name.toList = field.name.toList) : other = field :=
  List.inj_on_of_nodup_map hnames hother hfield (String.toList_inj.1 h)

/-! ### What is written is admitted -/

/-- Forms are written one by one. -/
lemma writtenAll_eq_map (items : List Form) : writtenAll items = items.map written := by
  induction items with
  | nil => rfl
  | cons item items ih => rw [writtenAll, ih, List.map_cons]

/-- A form or null is written as what may be missing. -/
lemma written_orNull {α : Type} {value : α → Form} {encode : α → Json}
    (h : ∀ a, (value a).written = encode a) (o : Option α) :
    (orNull value o).written = ofOption encode o := by
  cases o with
  | none => rfl
  | some a => exact h a

/-- A list is written item by item. -/
lemma written_list_map {α : Type} {items : List α} {item : α → Form} {encode : α → Json}
    (h : ∀ a, (item a).written = encode a) :
    (list (items.map item)).written = .array (items.map encode) := by
  have hitem : written ∘ item = encode := funext h
  rw [written, writtenAll_eq_map, List.map_map, hitem]

/-- Fields are written one by one. -/
lemma writtenFields_cons (field : Field Form) (fields : List (Field Form)) :
    writtenFields (field :: fields) =
      if field.presence = .tacit then writtenFields fields
      else (field.name.toList, field.form.written) :: writtenFields fields := by
  rw [writtenFields]

/-- A field that has to be there is written. -/
@[simp] lemma writtenFields_needed (name : String) (form : Form) (fields : List (Field Form)) :
    writtenFields (.needed name form :: fields) =
      (name.toList, form.written) :: writtenFields fields := rfl

/-- So is one that may be left out. -/
@[simp] lemma writtenFields_orDefault {α : Type} [DecidableEq α] (name : String) (a default : α)
    (form : Form) (fields : List (Field Form)) :
    writtenFields (.orDefault name a default form :: fields) =
      (name.toList, form.written) :: writtenFields fields := by
  have hpresence : (Field.orDefault name a default form).presence ≠ .tacit := by
    rw [Field.orDefault]
    split_ifs <;> simp
  rw [writtenFields_cons, if_neg hpresence]
  rfl

/-- Nothing is written under a name that no field has. -/
lemma lookup_writtenFields_eq_none (h : ∀ field ∈ fields, field.name.toList ≠ name) :
    lookup name (writtenFields fields) = none := by
  induction fields with
  | nil => rfl
  | cons field fields ih =>
    obtain ⟨hfield, hfields⟩ := List.forall_mem_cons.1 h
    rw [writtenFields_cons]
    split_ifs
    · exact ih hfields
    · rw [lookup_cons, if_neg hfield, ih hfields]

/-- A field is found under its name, if it is written. -/
lemma lookup_writtenFields (hnames : (fields.map Field.name).Nodup) (hfield : field ∈ fields) :
    lookup field.name.toList (writtenFields fields) =
      if field.presence = .tacit then none else some field.form.written := by
  induction fields with
  | nil => cases hfield
  | cons first fields ih =>
    rw [List.map_cons, List.nodup_cons] at hnames
    obtain ⟨hfirst, hnames⟩ := hnames
    rw [writtenFields_cons]
    rcases List.mem_cons.1 hfield with rfl | hmem
    · have hnone : lookup field.name.toList (writtenFields fields) = none :=
        lookup_writtenFields_eq_none fun other hother => toList_ne_of_notMem hfirst hother
      split_ifs
      · exact hnone
      · rw [lookup_cons, if_pos rfl]
    · have hne := (toList_ne_of_notMem hfirst hmem).symm
      rw [← ih hnames hmem]
      by_cases hpresence : first.presence = .tacit
      · rw [if_pos hpresence]
      · rw [if_neg hpresence, lookup_cons, if_neg hne]

/-- **A form admits what is written.** -/
theorem admits_written (h : form.Distinct) : form.Admits form.written := by
  induction h with
  | value j => exact .value j
  | @list items hitems ih =>
    rw [written, writtenAll_eq_map]
    exact .list (List.forall₂_map_right_iff.2 (List.forall₂_same.2 ih))
  | @record fields hnames hforms ih =>
    rw [written]
    refine .record (fun field hfield j hj => ?_) (fun field hfield hnone => ?_)
    · rw [lookup_writtenFields hnames hfield] at hj
      split_ifs at hj with hpresence
      obtain rfl := Option.some.inj hj
      exact ih field hfield
    · rw [lookup_writtenFields hnames hfield] at hnone
      split_ifs at hnone with hpresence
      rw [hpresence]
      decide

/-! ### Changes -/

/-- What a record admits, by its fields. -/
lemma admits_record_iff : (record fields).Admits (.object members) ↔
    ∀ field ∈ fields,
      (∀ j, lookup field.name.toList members = some j → field.form.Admits j) ∧
        (lookup field.name.toList members = none → field.presence ≠ .needed) := by
  constructor
  · intro h
    cases h with
    | record hthere hmissing =>
      exact fun field hfield => ⟨hthere field hfield, hmissing field hfield⟩
  · intro h
    exact .record (fun field hfield => (h field hfield).1) (fun field hfield => (h field hfield).2)

/-- Items that stand at the same place in two arrays. -/
lemma forall₂_append_cons {R : Form → Json → Prop} {items items' : List Form}
    {before after : List Json} (hlength : items.length = before.length) :
    List.Forall₂ R (items ++ form :: items') (before ++ j :: after) ↔
      List.Forall₂ R items before ∧ R form j ∧ List.Forall₂ R items' after := by
  induction items generalizing before with
  | nil =>
    obtain rfl := List.length_eq_zero_iff.1 hlength.symm
    simp
  | cons item items ih =>
    cases before with
    | nil => cases hlength
    | cons i before =>
      rw [List.cons_append, List.cons_append, List.forall₂_cons, List.forall₂_cons,
        ih (Nat.succ.inj hlength), and_assoc]

/-- **A change keeps to what the form admits.**

**Proof sketch.** Induction on the change. In a record all that counts is which member of a field's
name comes first. A member that is no field is never that, a field that is left out does not have to
be there, and what another field holds stays as it is. -/
theorem Admits.change (h : form.Admits j) (hdistinct : form.Distinct)
    (hchange : form.Change j j') : form.Admits j' := by
  induction hchange with
  | @add fields before after name hname j =>
    rw [admits_record_iff] at h ⊢
    intro field hfield
    have hsame : lookup field.name.toList (before ++ (name, j) :: after) =
        lookup field.name.toList (before ++ after) := by
      rw [lookup_append, lookup_append, lookup_cons, if_neg (hname field hfield).symm]
    rw [hsame]
    exact h field hfield
  | @leaveOut fields field hfield hspare members =>
    obtain ⟨hnames, -⟩ := distinct_record_iff.1 hdistinct
    rw [admits_record_iff] at h ⊢
    intro other hother
    by_cases heq : other.name.toList = field.name.toList
    · obtain rfl := eq_of_toList_eq hnames hfield hother heq
      rw [lookup_filter_self]
      exact ⟨fun j hj => (by cases hj), fun _ => hspare⟩
    · rw [lookup_filter_of_ne heq]
      exact h other hother
  | @member fields field j j' hfield hchange before after ih =>
    obtain ⟨hnames, hforms⟩ := distinct_record_iff.1 hdistinct
    rw [admits_record_iff] at h ⊢
    intro other hother
    have hother' := h other hother
    rw [lookup_append, lookup_cons] at hother' ⊢
    by_cases heq : field.name.toList = other.name.toList
    · obtain rfl := eq_of_toList_eq hnames hother hfield heq
      rw [if_pos rfl] at hother' ⊢
      cases hbefore : lookup field.name.toList before with
      | some found => rwa [hbefore] at hother'
      | none =>
        rw [hbefore] at hother'
        refine ⟨fun i hi => ?_, fun hnone => by cases hnone⟩
        obtain rfl : j' = i := by simpa using hi
        exact ih (hother'.1 j rfl) (hforms field hfield)
    · rw [if_neg heq] at hother' ⊢
      exact hother'
  | @item form j j' hchange items before hlength items' after ih =>
    cases h with
    | list hitems =>
    obtain ⟨hbefore, hitem, hafter⟩ := (forall₂_append_cons hlength).1 hitems
    have hform := distinct_list_iff.1 hdistinct form (by simp)
    exact .list ((forall₂_append_cons hlength).2 ⟨hbefore, ih hitem hform, hafter⟩)

/-- Any number of changes keep to what the form admits. -/
theorem Admits.changes (h : form.Admits j) (hdistinct : form.Distinct)
    (hchanges : Relation.ReflTransGen form.Change j j') : form.Admits j' := by
  induction hchanges with
  | refl => exact h
  | tail _ hchange ih => exact ih.change hdistinct hchange

/-! ### Reading what a form admits -/

section Reading

variable {α : Type} {a : α} {decode : Json → Option α}

/-- A truth value is read as it is. -/
lemma Admits.bool?_eq {b : Bool} (h : (Form.value (.bool b)).Admits j) : j.bool? = some b := by
  cases h
  rfl

/-- A text is read as it is. -/
lemma Admits.string?_eq {s : Text} (h : (Form.value (.string s)).Admits j) :
    j.string? = some s := by
  cases h
  rfl

/-- What is written if there is nothing is read so, if it does not stand for anything else. -/
lemma Admits.nullable?_eq {value : α → Form} {o : Option α} (h : (Form.orNull value o).Admits j)
    (hnull : ∀ a, ¬ (value a).Admits .null)
    (hdecode : ∀ a j, (value a).Admits j → decode j = some a) : j.nullable? decode = some o := by
  cases o with
  | none =>
    cases h
    rfl
  | some a =>
    rw [nullable?, hdecode a j h]
    · rfl
    · exact fun heq => hnull a (heq ▸ h)

/-- The items of a list are read one by one. -/
lemma Admits.list?_eq {items : List α} {item : α → Form}
    (h : (Form.list (items.map item)).Admits j)
    (hdecode : ∀ a j, (item a).Admits j → decode j = some a) : j.list? decode = some items := by
  cases h with
  | @list _ js hitems =>
  rw [List.forall₂_map_left_iff] at hitems
  rw [list?]
  induction hitems with
  | nil => rfl
  | @cons a j items js hitem _ ih =>
    rw [List.mapM_cons, hdecode a j hitem, ih]
    rfl

/-- A record is an object, and its fields are looked up by their names. -/
lemma Admits.exists_members (h : (Form.record fields).Admits j) : ∃ members, j = .object members ∧
    ∀ names, j.fields? names = some (names.map fun name => lookup name.toList members) := by
  cases h with
  | @record _ members => exact ⟨members, rfl, fun _ => rfl⟩

/-- So it is short of no items. -/
lemma Admits.fullFields?_eq (h : (Form.record fields).Admits j) (names : List String) :
    j.fullFields? names = j.fields? names := by
  obtain ⟨members, rfl, -⟩ := h.exists_members
  rfl

/-- A field that has to be there is there. -/
lemma Admits.exists_of_needed {name : String} (h : (Form.record fields).Admits (.object members))
    (hfield : Field.needed name form ∈ fields) :
    ∃ j, lookup name.toList members = some j ∧ form.Admits j := by
  have hname := admits_record_iff.1 h _ hfield
  cases hlookup : lookup name.toList members with
  | none => exact absurd rfl (hname.2 hlookup)
  | some j => exact ⟨j, rfl, hname.1 j hlookup⟩

/-- It is read as what it holds. -/
lemma Admits.required_eq {name : String} (h : (Form.record fields).Admits (.object members))
    (hfield : Field.needed name form ∈ fields)
    (hdecode : ∀ j, form.Admits j → decode j = some a) :
    required decode (lookup name.toList members) = some a := by
  obtain ⟨j, hlookup, hadmits⟩ := h.exists_of_needed hfield
  rw [hlookup]
  exact hdecode j hadmits

/-- A pair of values is found as it is. -/
lemma Admits.fields?_pair {first second : String} {v w : Json}
    (h : (Form.record [.needed first (.value v), .needed second (.value w)]).Admits j) :
    j.fields? [first, second] = some [some v, some w] := by
  obtain ⟨members, rfl, hfields⟩ := h.exists_members
  obtain ⟨_, hfirst, hv⟩ := h.exists_of_needed (.head _)
  obtain ⟨_, hsecond, hw⟩ := h.exists_of_needed (.tail _ (.head _))
  cases hv
  cases hw
  rw [hfields, List.map_cons, List.map_cons, List.map_nil, hfirst, hsecond]

/-- A field that may be left out is read as what it holds, whether it is there or not. -/
lemma Admits.optional_eq [DecidableEq α] {name : String} {default : α}
    (h : (Form.record fields).Admits (.object members))
    (hfield : Field.orDefault name a default form ∈ fields)
    (hdecode : ∀ j, form.Admits j → decode j = some a) :
    optional default decode (lookup name.toList members) = some a := by
  have hname := admits_record_iff.1 h _ hfield
  cases hlookup : lookup name.toList members with
  | none =>
    by_cases heq : a = default
    · rw [heq]
      rfl
    · exact absurd (if_neg heq) (hname.2 hlookup)
  | some j => exact hdecode j (hname.1 j hlookup)

/-- **A record that names its kind** is read by its kind and by its other fields. -/
lemma Admits.tagged?_eq {tag kind : String}
    (h : (Form.record (.needed tag (.value (ofString kind)) :: fields)).Admits j)
    (hdistinct : (Form.record (.needed tag (.value (ofString kind)) :: fields)).Distinct) :
    ∃ members, j.tagged? tag = some (kind.toList, .object members) ∧
      (Form.record fields).Admits (.object members) := by
  obtain ⟨members, rfl, -⟩ := h.exists_members
  obtain ⟨_, hkind, hadmits⟩ := h.exists_of_needed (.head _)
  cases hadmits
  refine ⟨members.filter fun m => m.1 != tag.toList, ?_, ?_⟩
  · rw [tagged?, hkind]
    rfl
  · obtain ⟨hnames, -⟩ := distinct_record_iff.1 hdistinct
    rw [List.map_cons, List.nodup_cons] at hnames
    rw [admits_record_iff] at h ⊢
    intro field hfield
    have hne : field.name.toList ≠ tag.toList := toList_ne_of_notMem hnames.1 hfield
    rw [lookup_filter_of_ne hne]
    exact h field (List.mem_cons_of_mem _ hfield)

end Reading

end Form

end OneFile.Json
