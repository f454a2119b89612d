import Mathlib.Data.List.Induction
import Mathlib.Data.Prod.Lex
import Mathlib.Order.Monotone.Defs
import OneFile.Proofs.Text.Boundary
import OneFile.Text.Layout
import OneFile.Text.Location

/-!
# Lines and columns tell places apart

A line and a column stand for one place between two characters: after the lines before, and after
the characters of the line itself that come before the column. This module says that the place of
an offset is just this one, for every offset between two characters, and that places are ordered
as their offsets are.

## Main definitions

* `OneFile.Text.Location.Finds` — a line and a column stand for an offset.
* `OneFile.Text.Location.key` — line and column, ordered by line first.

## Main results

* `OneFile.Text.Location.finds_iff` — the place of an offset, and no other one, stands for it.
* `OneFile.Text.locate_of_within_char`, `OneFile.Text.locate_of_size_le` — all other offsets go back
  to a boundary.
* `OneFile.Text.strictMonoOn_key_locate` — places are ordered as their offsets are.
-/

namespace OneFile.Text

/-! ### The whole characters before an offset -/

/-- The whole characters within the first bytes and what follows them make up the text. -/
lemma within_append (n : Nat) (s : Text) : within n s ++ dropWithin n s = s := by
  induction s generalizing n with
  | nil => rfl
  | cons c s ih =>
    rw [within, dropWithin]
    split_ifs
    · rw [List.cons_append, ih]
    · rfl

/-- They have no more than so many bytes. -/
lemma size_within_le (n : Nat) (s : Text) : (within n s).size ≤ n := by
  induction s generalizing n with
  | nil => exact Nat.zero_le n
  | cons c s ih =>
    rw [within]
    split_ifs with hfits
    · have hrest := ih (n - c.utf8Size)
      rw [size_cons]
      omega
    · exact Nat.zero_le n

/-- They reach as far as any boundary does. -/
lemma le_size_within {n m : Nat} {s : Text} (h : s.IsBoundary m) (hm : m ≤ n) :
    m ≤ (within n s).size := by
  obtain ⟨before, after, rfl, rfl⟩ := h
  induction before generalizing n with
  | nil => exact Nat.zero_le _
  | cons c before ih =>
    rw [size_cons] at hm
    rw [List.cons_append, within, if_pos (by omega), size_cons, size_cons]
    exact Nat.add_le_add_left (ih (by omega)) _

/-- **They are all that comes before the offset**, up to a character that goes beyond it. -/
lemma within_eq {n : Nat} {before after : Text} (hle : before.size ≤ n)
    (hlt : ∀ c ∈ after.head?, n < before.size + c.utf8Size) :
    within n (before ++ after) = before := by
  induction before generalizing n with
  | nil =>
    cases after with
    | nil => rfl
    | cons c after =>
      have hc : n < size [] + c.utf8Size := hlt c rfl
      rw [size_nil, Nat.zero_add] at hc
      rw [List.nil_append, within, if_neg (by omega)]
  | cons c before ih =>
    rw [size_cons] at hle
    have hrest : within (n - c.utf8Size) (before ++ after) = before := by
      refine ih (by omega) fun d hd => ?_
      have hd := hlt d hd
      rw [size_cons] at hd
      omega
    rw [List.cons_append, within, if_pos (by omega), hrest]

/-- At a boundary they are all that comes before it. -/
lemma within_size (before after : Text) : within before.size (before ++ after) = before :=
  within_eq (Nat.le_refl _) fun c _ => Nat.lt_add_of_pos_right c.utf8Size_pos

/-! ### Lines -/

/-- Whole lines: nothing, or a text that ends in a line feed. -/
def WholeLines (s : Text) : Prop := s = [] ∨ ∃ t, s = t ++ ['\n']

/-- A text is some whole lines and the start of a line. -/
lemma exists_wholeLines (s : Text) :
    ∃ before start : Text, s = before ++ start ∧ WholeLines before ∧ '\n' ∉ start := by
  induction s using List.reverseRecOn with
  | nil => exact ⟨[], [], rfl, .inl rfl, List.not_mem_nil⟩
  | append_singleton s c ih =>
    by_cases hc : c = '\n'
    · subst hc
      exact ⟨s ++ ['\n'], [], by simp, .inr ⟨s, rfl⟩, List.not_mem_nil⟩
    · obtain ⟨before, start, rfl, hbefore, hstart⟩ := ih
      refine ⟨before, start ++ [c], by simp, hbefore, ?_⟩
      simp [hstart, Ne.symm hc]

/-! ### Going through a text -/

namespace Location

/-- A place goes on from one text to the next. -/
lemma after_append (start : Location) (s t : Text) :
    start.after (s ++ t) = (start.after s).after t := by
  induction s generalizing start with
  | nil => rfl
  | cons c s ih =>
    rw [List.cons_append, Location.after, Location.after]
    split_ifs <;> exact ih _

/-- The line goes up by the line feeds. -/
lemma line_after (start : Location) (s : Text) :
    (start.after s).line = start.line + s.count '\n' := by
  induction s generalizing start with
  | nil => rfl
  | cons c s ih =>
    rw [Location.after]
    split_ifs with hc
    · rw [ih, hc, List.count_cons_self, Nat.add_assoc, Nat.add_comm 1]
    · rw [ih, List.count_cons_of_ne hc]

/-- Within a line the column goes up by the characters. -/
lemma after_of_notMem (start : Location) {s : Text} (h : '\n' ∉ s) :
    start.after s = ⟨start.line, start.column + s.length⟩ := by
  induction s generalizing start with
  | nil => rfl
  | cons c s ih =>
    obtain ⟨hc, hs⟩ := List.ne_and_not_mem_of_not_mem_cons h
    rw [Location.after, if_neg hc.symm, ih _ hs, List.length_cons, Nat.add_assoc,
      Nat.add_comm 1]

/-! ### What a place stands for -/

/-- **A line and a column stand for an offset**: the line is the one after the whole lines
`before`, and the column is that of the character after those in `start`, which the line begins
with. Both are counted from one. -/
def Finds (s : Text) (place : Location) (offset : Nat) : Prop :=
  ∃ before start rest : Text, s = before ++ start ++ rest ∧ offset = size (before ++ start) ∧
    WholeLines before ∧ '\n' ∉ start ∧ place = ⟨before.count '\n' + 1, start.length + 1⟩

/-- After whole lines a line begins. -/
lemma after_wholeLines {before : Text} (h : WholeLines before) :
    Location.after ⟨1, 1⟩ before = ⟨before.count '\n' + 1, 1⟩ := by
  rcases h with rfl | ⟨s, rfl⟩
  · rfl
  · rw [after_append, Location.after, if_pos rfl, Location.after, line_after, List.count_append,
      List.count_singleton_self, Nat.add_comm 1]

/-- The place after whole lines and the start of a line. -/
lemma after_start {before start : Text} (hbefore : WholeLines before) (hstart : '\n' ∉ start) :
    Location.after ⟨1, 1⟩ (before ++ start) = ⟨before.count '\n' + 1, start.length + 1⟩ := by
  rw [after_append, after_wholeLines hbefore, after_of_notMem _ hstart, Nat.add_comm 1]

/-- **The place of an offset stands for it**, and no other place does. Offsets that are no
boundaries have no place that stands for them. -/
theorem finds_iff {s : Text} {place : Location} {offset : Nat} :
    Finds s place offset ↔ s.IsBoundary offset ∧ s.locate offset = place := by
  constructor
  · rintro ⟨before, start, rest, rfl, rfl, hbefore, hstart, rfl⟩
    refine ⟨⟨before ++ start, rest, rfl, rfl⟩, ?_⟩
    rw [locate, within_size, after_start hbefore hstart]
  · rintro ⟨⟨before, rest, rfl, rfl⟩, rfl⟩
    obtain ⟨whole, start, rfl, hwhole, hstart⟩ := exists_wholeLines before
    refine ⟨whole, start, rest, rfl, rfl, hwhole, hstart, ?_⟩
    rw [locate, within_size, after_start hwhole hstart]

/-! ### The order of places -/

/-- The line and the column of a place, in lexicographic order. -/
def key (place : Location) : ℕ ×ₗ ℕ := toLex (place.line, place.column)

/-- A place is before those on later lines, and before those further on in its line. -/
lemma key_lt_key {place place' : Location} : place.key < place'.key ↔
    place.line < place'.line ∨ place.line = place'.line ∧ place.column < place'.column :=
  Prod.Lex.toLex_lt_toLex

/-- Every character leads to a later place. -/
lemma key_lt_key_after {s : Text} (start : Location) (hs : s ≠ []) :
    start.key < (start.after s).key := by
  induction s generalizing start with
  | nil => exact absurd rfl hs
  | cons c s ih =>
    have hnext : ∀ next : Location, start.key < next.key → start.key < (next.after s).key := by
      intro next hlt
      by_cases hs : s = []
      · rw [hs]
        exact hlt
      · exact hlt.trans (ih next hs)
    rw [Location.after]
    split_ifs
    · exact hnext _ (key_lt_key.2 (.inl (Nat.lt_succ_self _)))
    · exact hnext _ (key_lt_key.2 (.inr ⟨rfl, Nat.lt_succ_self _⟩))

end Location

/-- **Places are ordered as their offsets are**, between characters. -/
theorem strictMonoOn_key_locate (s : Text) :
    StrictMonoOn (fun offset => (s.locate offset).key) {offset | s.IsBoundary offset} := by
  rintro _ ⟨before, after, hs, rfl⟩ _ ⟨before', after', hs', rfl⟩ hlt
  obtain ⟨m, rfl, -⟩ := exists_append_of_size_le (hs.symm.trans hs') (Nat.le_of_lt hlt)
  have hm : m ≠ [] := by
    rintro rfl
    simp at hlt
  have hbefore : s.locate before.size = Location.after ⟨1, 1⟩ before := by
    rw [hs, locate, within_size]
  have hlater : s.locate (before ++ m).size = (Location.after ⟨1, 1⟩ before).after m := by
    rw [hs', locate, within_size, Location.after_append]
  show (s.locate before.size).key < (s.locate (before ++ m).size).key
  rw [hbefore, hlater]
  exact Location.key_lt_key_after _ hm

/-! ### Offsets that are no boundaries -/

/-- **An offset inside a character has the place of that character.** -/
theorem locate_of_within_char {before after : Text} {c : Char} {offset : Nat}
    (hle : before.size ≤ offset) (hlt : offset < before.size + c.utf8Size) :
    locate (before ++ c :: after) offset = locate (before ++ c :: after) before.size := by
  have hwithin : within offset (before ++ c :: after) = before := by
    refine within_eq hle fun d hd => ?_
    obtain rfl : c = d := by simpa using hd
    exact hlt
  rw [locate, locate, hwithin, within_size]

/-- **An offset past the end has the place of the end.** -/
theorem locate_of_size_le {s : Text} {offset : Nat} (h : s.size ≤ offset) :
    s.locate offset = s.locate s.size := by
  have hwithin : ∀ n, s.size ≤ n → within n s = s := by
    intro n hn
    have h : within n (s ++ []) = s := within_eq hn (by simp)
    rwa [List.append_nil] at h
  rw [locate, locate, hwithin offset h, hwithin s.size (Nat.le_refl _)]

end OneFile.Text
