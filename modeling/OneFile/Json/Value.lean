import OneFile.Text.Basic

/-!
# JSON values

Values as they are written to and read from other programs. Counts and offsets are the only
numbers that mean anything here, so a number is either a natural number written without sign,
fraction and exponent, or some other number.

A record is an object with the record's field names, in any order and with any further fields; or
the array of its fields in their own order. Fields that may be missing are missing from the end of
an array. Some may be missing from an object only: then the array has to hold them all.

## Main definitions

* `OneFile.Json` — a value.
* `OneFile.Json.fields?` — the fields of a record.
* `OneFile.Json.fullFields?` — the fields of a record that holds them all as an array.
* `OneFile.Json.tagged?` — the fields of a record that starts with the name of its kind.

## Main results

* `OneFile.Json.sizeOf_lt_of_mem_fields?` — fields are smaller than the record they are in.
-/

namespace OneFile

/-- A JSON value. -/
inductive Json where
  | null
  | bool (b : Bool)
  /-- A natural number below 2^64, written in digits alone. -/
  | nat (n : Nat)
  /-- Any other number. -/
  | otherNumber
  | string (s : Text)
  | array (items : List Json)
  | object (members : List (Text × Json))
deriving Repr, Inhabited

namespace Json

/-- A string literal as a value. -/
def ofString (s : String) : Json := .string s.toList

/-- An object, from literal names. -/
def ofMembers (members : List (String × Json)) : Json :=
  .object (members.map fun (name, value) => (name.toList, value))

/-- The value, or null. -/
def ofOption {α : Type} (encode : α → Json) : Option α → Json
  | none => .null
  | some a => encode a

/-! ### Reading simple values -/

/-- The number, if the value is one that counts. -/
def nat? : Json → Option Nat
  | .nat n => some n
  | _ => none

/-- The truth value, if the value is one. -/
def bool? : Json → Option Bool
  | .bool b => some b
  | _ => none

/-- The text, if the value is a string. -/
def string? : Json → Option Text
  | .string s => some s
  | _ => none

/-- All items of an array, each read by `decode`. -/
def list? {α : Type} (decode : Json → Option α) : Json → Option (List α)
  | .array items => items.mapM decode
  | _ => none

/-- Null as `none`, anything else as `decode` reads it. -/
def nullable? {α : Type} (decode : Json → Option α) : Json → Option (Option α)
  | .null => some none
  | j => (decode j).map some

/-! ### Reading records -/

/-- The member of that name. -/
def lookup (name : Text) (members : List (Text × Json)) : Option Json :=
  (members.find? fun m => m.1 == name).map Prod.snd

/-- The member of that name, if the value is an object. -/
def member? (name : String) : Json → Option Json
  | .object members => lookup name.toList members
  | _ => none

/-- The items in the places of `names`; `none` when there are more items than names. -/
def positional : List Text → List Json → Option (List (Option Json))
  | names, [] => some (names.map fun _ => none)
  | [], _ :: _ => none
  | _ :: names, item :: items => (positional names items).map (some item :: ·)

/-- The fields of a record with these names, in the order of the names. -/
def fields? (names : List String) : Json → Option (List (Option Json))
  | .object members => some (names.map fun name => lookup name.toList members)
  | .array items => positional (names.map String.toList) items
  | _ => none

/-- The fields of a record as `fields?` has them, if it is no array that is short of some. -/
def fullFields? (names : List String) : Json → Option (List (Option Json))
  | .array items => if items.length < names.length then none else (array items).fields? names
  | j => j.fields? names

/-- The kind of a record, named by its member `tag` or its first item, and the record without
it. -/
def tagged? (tag : String) : Json → Option (Text × Json)
  | .object members =>
    match lookup tag.toList members with
    | some (.string kind) => some (kind, .object (members.filter fun m => m.1 != tag.toList))
    | _ => none
  | .array (.string kind :: items) => some (kind, .array items)
  | _ => none

/-- A field that must be there. -/
def required {α : Type} (decode : Json → Option α) : Option Json → Option α
  | none => none
  | some j => decode j

/-- A field that may be missing. -/
def optional {α : Type} (default : α) (decode : Json → Option α) : Option Json → Option α
  | none => some default
  | some j => decode j

/-! ### Fields are smaller than their record -/

/-- A member is smaller than the members together. -/
theorem sizeOf_lt_of_lookup {name : Text} {members : List (Text × Json)} {j : Json}
    (h : lookup name members = some j) : sizeOf j < sizeOf members := by
  obtain ⟨m, hm, rfl⟩ := Option.map_eq_some_iff.1 h
  have h₁ := List.sizeOf_lt_of_mem (List.mem_of_find?_eq_some hm)
  have h₂ : sizeOf m = 1 + sizeOf m.1 + sizeOf m.2 := by cases m; rfl
  omega

/-- An item that is taken for a field is smaller than the items together. -/
theorem sizeOf_lt_of_mem_positional {names : List Text} {items : List Json}
    {fs : List (Option Json)} {j : Json} (h : positional names items = some fs)
    (hj : some j ∈ fs) : sizeOf j < sizeOf items := by
  induction items generalizing names fs with
  | nil =>
    simp only [positional, Option.some.injEq] at h
    simp [← h] at hj
  | cons item items ih =>
    cases names with
    | nil => simp [positional] at h
    | cons name names =>
      obtain ⟨gs, hg, rfl⟩ := Option.map_eq_some_iff.1 h
      simp only [List.mem_cons, Option.some.injEq] at hj
      simp only [List.cons.sizeOf_spec]
      rcases hj with rfl | hj
      · omega
      · have := ih hg hj
        omega

/-- Fields are smaller than the record they are in. -/
theorem sizeOf_lt_of_mem_fields? {names : List String} {record j : Json}
    {fs : List (Option Json)} (h : fields? names record = some fs) (hj : some j ∈ fs) :
    sizeOf j < sizeOf record := by
  cases record with
  | object members =>
    simp only [fields?, Option.some.injEq] at h
    rw [← h] at hj
    obtain ⟨name, -, hn⟩ := List.mem_map.1 hj
    have := sizeOf_lt_of_lookup hn
    simp only [object.sizeOf_spec]
    omega
  | array items =>
    have := sizeOf_lt_of_mem_positional h hj
    simp only [array.sizeOf_spec]
    omega
  | _ => simp [fields?] at h

/-- Leaving out members does not make them larger. -/
theorem sizeOf_filter_le (p : Text × Json → Bool) (members : List (Text × Json)) :
    sizeOf (members.filter p) ≤ sizeOf members := by
  induction members with
  | nil => exact Nat.le_refl _
  | cons m ms ih =>
    simp only [List.filter]
    split <;> simp only [List.cons.sizeOf_spec] <;> omega

/-- Taking away its kind does not make a record larger. -/
theorem sizeOf_le_of_tagged? {tag : String} {j record : Json} {kind : Text}
    (h : tagged? tag j = some (kind, record)) : sizeOf record ≤ sizeOf j := by
  unfold tagged? at h
  split at h
  · split at h
    · simp only [Option.some.injEq, Prod.mk.injEq] at h
      rw [← h.2]
      have := sizeOf_filter_le (fun m => m.1 != tag.toList)
      simp only [object.sizeOf_spec]
      have := this (by assumption)
      omega
    · simp at h
  · simp only [Option.some.injEq, Prod.mk.injEq] at h
    rw [← h.2]
    simp only [array.sizeOf_spec, List.cons.sizeOf_spec]
    omega
  · simp at h

end Json

end OneFile
