import Mathlib.Data.List.DropRight
import Mathlib.Data.List.TakeWhile
import OneFile.Proofs.Text.Lines
import OneFile.Text.Blank

/-!
# Blank texts and trimming

What trimming takes away from a text is blank, and it goes on until it meets a visible character.

## Main results

* `OneFile.Text.blank_iff_lines` — a text is blank just if its lines are.
* `OneFile.Text.exists_trimEnd_append` — a text lacks nothing but blanks after trimming its end.
* `OneFile.Text.trimEnd_eq_nil_iff` — trimming leaves nothing of blank texts only.
* `OneFile.Text.trim_append_append` — trimming takes away the blanks around a visible stretch.
-/

namespace OneFile.Text

/-! ### Blank texts -/

/-- Two texts are blank together if each of them is. -/
@[simp] lemma blank_append (s t : Text) : (s ++ t).blank = (s.blank && t.blank) := List.all_append

/-- A part of a blank text is blank. -/
lemma blank_of_suffix {s t : Text} (h : s <:+ t) (ht : t.blank = true) : s.blank = true := by
  obtain ⟨before, rfl⟩ := h
  rw [blank_append, Bool.and_eq_true] at ht
  exact ht.2

/-- **A text is blank just if its lines are.** -/
theorem blank_iff_lines {s : Text} : s.blank = true ↔ ∀ l ∈ s.lines, l.blank = true := by
  induction s with
  | nil => simp [lines, blank]
  | cons c s ih =>
    obtain ⟨l, ls, hs⟩ := exists_lines_eq_cons s
    have hcons : blank (c :: s) = (isBlank c && blank s) := rfl
    rw [hcons, Bool.and_eq_true, ih]
    by_cases hc : c = '\n'
    · rw [lines, if_pos hc, hc, List.forall_mem_cons]
      exact and_congr_left fun _ => iff_of_true rfl rfl
    · rw [lines_cons_of_ne hc hs, hs, List.forall_mem_cons, List.forall_mem_cons, ← and_assoc]
      exact and_congr_left fun _ => (Bool.and_eq_true ..).symm.to_iff

/-! ### Trimming the end -/

/-- A line without the blanks at its end lacks nothing else. -/
lemma exists_trimEnd_append (l : Text) :
    ∃ blanks : Text, blanks.blank = true ∧ l = l.trimEnd ++ blanks :=
  ⟨l.rtakeWhile isBlank, List.all_eq_true.2 fun _ hc => List.mem_rtakeWhile_imp hc,
    List.rdropWhile_append_rtakeWhile.symm⟩

/-- Trimming leaves nothing of blank texts only. -/
lemma trimEnd_eq_nil_iff {s : Text} : s.trimEnd = [] ↔ s.blank = true :=
  List.rdropWhile_eq_nil_iff.trans List.all_eq_true.symm

/-- There is nothing left to trim. -/
@[simp] lemma trimEnd_trimEnd (s : Text) : s.trimEnd.trimEnd = s.trimEnd :=
  List.rdropWhile_idempotent isBlank s

/-- Blanks at the end do not count. -/
lemma trimEnd_append_of_blank (s : Text) {t : Text} (ht : t.blank = true) :
    (s ++ t).trimEnd = s.trimEnd := by
  induction t using List.reverseRecOn with
  | nil => rw [List.append_nil]
  | append_singleton t c ih =>
    rw [blank_append, Bool.and_eq_true] at ht
    rw [← List.append_assoc, ← ih ht.1]
    exact List.rdropWhile_concat_pos isBlank _ c (by simpa [blank] using ht.2)

/-- Trimming stops at a visible character. -/
lemma trimEnd_append_of_visible (s : Text) {c : Char} (hc : isBlank c = false) :
    (s ++ [c]).trimEnd = s ++ [c] :=
  List.rdropWhile_concat_neg isBlank _ c (by simp [hc])

/-- A trimmed text does not end in a blank. -/
lemma visible_of_mem_getLast?_trimEnd {s : Text} {c : Char} (h : c ∈ s.trimEnd.getLast?) :
    isBlank c = false := by
  obtain ⟨hne, rfl⟩ := List.mem_getLast?_eq_getLast h
  exact Bool.eq_false_iff.2 (List.rdropWhile_last_not isBlank s hne)

/-! ### Trimming both ends -/

/-- **Trimming takes away the blanks around a visible stretch.** -/
lemma trim_append_append {before after : Text} (hbefore : before.blank = true)
    (hafter : after.blank = true) {c d : Char} (hc : isBlank c = false) (hd : isBlank d = false)
    (middle : Text) : trim (before ++ (c :: middle ++ [d]) ++ after) = c :: middle ++ [d] := by
  have hstart : trimStart (before ++ (c :: middle ++ [d]) ++ after) =
      c :: middle ++ [d] ++ after := by
    rw [trimStart, List.append_assoc, List.dropWhile_append_of_pos (List.all_eq_true.1 hbefore)]
    simp [hc]
  rw [trim, hstart, trimEnd_append_of_blank _ hafter, trimEnd_append_of_visible _ hd]

end OneFile.Text
