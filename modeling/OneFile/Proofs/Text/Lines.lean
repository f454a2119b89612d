import Mathlib.Data.List.Infix
import OneFile.Text.Basic

/-!
# Lines of a text

Splitting a text at its line feeds, and joining lines again.

## Main results

* `OneFile.Text.lines_append_cons` — a line feed ends the first line.
* `OneFile.Text.unlines_lines` — the lines of a text join to it.
-/

namespace OneFile

namespace Text

/-- There is a first line. -/
lemma exists_lines_eq_cons (s : Text) : ∃ l ls, s.lines = l :: ls := by
  cases s with
  | nil => exact ⟨[], [], rfl⟩
  | cons c s =>
    unfold lines
    split_ifs
    · exact ⟨_, _, rfl⟩
    · cases lines s <;> exact ⟨_, _, rfl⟩

/-- A character that is no line feed belongs to the first line. -/
lemma lines_cons_of_ne {c : Char} {s l : Text} {ls : List Text} (hc : c ≠ '\n')
    (hs : s.lines = l :: ls) : lines (c :: s) = (c :: l) :: ls := by
  rw [lines, if_neg hc, hs]

/-- **A line feed ends the first line.** -/
lemma lines_append_cons {l : Text} (hl : '\n' ∉ l) (s : Text) :
    lines (l ++ '\n' :: s) = l :: s.lines := by
  induction l with
  | nil => rw [List.nil_append, lines, if_pos rfl]
  | cons c l ih =>
    obtain ⟨hc, hl⟩ := List.ne_and_not_mem_of_not_mem_cons hl
    exact lines_cons_of_ne hc.symm (ih hl)

/-- A text without line feeds goes before the first line. -/
lemma lines_append_of_notMem {s t l : Text} {ls : List Text} (hs : '\n' ∉ s)
    (ht : t.lines = l :: ls) : lines (s ++ t) = (s ++ l) :: ls := by
  induction s with
  | nil => exact ht
  | cons c s ih =>
    obtain ⟨hc, hs⟩ := List.ne_and_not_mem_of_not_mem_cons hs
    exact lines_cons_of_ne hc.symm (ih hs)

/-- Joining puts a line feed after every line but the last one. -/
lemma unlines_cons_cons (l l' : Text) (ls : List Text) :
    unlines (l :: l' :: ls) = l ++ '\n' :: unlines (l' :: ls) := by
  simp [unlines, List.intercalate, List.intersperse]

/-- A character in front of the first line is in front of the joined lines. -/
lemma unlines_cons_append (c : Char) (l : Text) (ls : List Text) :
    unlines ((c :: l) :: ls) = c :: unlines (l :: ls) := by
  cases ls with
  | nil => simp [unlines, List.intercalate]
  | cons l' ls => rw [unlines_cons_cons, unlines_cons_cons, List.cons_append]

/-- **The lines of a text join to it.** -/
theorem unlines_lines (s : Text) : unlines s.lines = s := by
  induction s with
  | nil => rfl
  | cons c s ih =>
    obtain ⟨l, ls, hs⟩ := exists_lines_eq_cons s
    rw [hs] at ih
    by_cases hc : c = '\n'
    · rw [lines, if_pos hc, hs, unlines_cons_cons, ih, hc, List.nil_append]
    · rw [lines_cons_of_ne hc hs, unlines_cons_append, ih]

end Text

end OneFile
