import Mathlib.Data.List.Infix
import Mathlib.Tactic.Common
import OneFile.Proofs.Text.Lines
import OneFile.Text.Layout

/-!
# What indenting does to a stretch of a text

`Text.indent` lays out a text line by line. A stretch of that text need not start or end where a
line does: its first line comes after something else, and its last line goes on. So the stretch is
left with a *hanging* indent: its first line as it is, and every later line after the blanks.

## Main definitions

* `OneFile.Text.hang` — a stretch of a text, after the text was indented.

## Main results

* `OneFile.Text.lines_append` — where two texts meet, a line of each is joined.
* `OneFile.Text.hang_eq_self` — a stretch within a line stays as it is.
* `OneFile.Text.hang_infix_indent` — what indenting leaves of a stretch of a text.

## Design

`indent` drops the lines that are blank. Whether a line at an end of the stretch is, depends on the
text around it too, so the stretch is asked to start and to end with characters that are not blank.
-/

namespace OneFile

namespace Text

/-! ### Lines of a text in two parts -/

/-- **Where two texts meet, a line of each is joined**; the other lines stay. -/
lemma lines_append {s t l : Text} {ls : List Text} (ht : t.lines = l :: ls) :
    ∃ init last, s.lines = init ++ [last] ∧ lines (s ++ t) = init ++ (last ++ l) :: ls := by
  induction s with
  | nil => exact ⟨[], [], rfl, ht⟩
  | cons c s ih =>
    obtain ⟨init, last, hs, hst⟩ := ih
    by_cases hc : c = '\n'
    · exact ⟨[] :: init, last, by rw [lines, if_pos hc, hs, List.cons_append],
        by rw [List.cons_append, lines, if_pos hc, hst, List.cons_append]⟩
    · cases init with
      | nil => exact ⟨[], c :: last, lines_cons_of_ne hc hs, lines_cons_of_ne hc hst⟩
      | cons first init =>
        exact ⟨(c :: first) :: init, last, lines_cons_of_ne hc hs, lines_cons_of_ne hc hst⟩

/-- A text without line feeds is one line. -/
lemma lines_of_notMem {s : Text} (h : '\n' ∉ s) : s.lines = [s] := by
  simpa using lines_append_of_notMem (t := []) h rfl

/-- Lines that are joined after other lines are an end of the joined text. -/
lemma unlines_append_cons (init : List Text) (l : Text) (ls : List Text) :
    unlines (init ++ l :: ls) = init.flatMap (· ++ ['\n']) ++ unlines (l :: ls) := by
  induction init with
  | nil => rfl
  | cons first init ih =>
    obtain ⟨l', ls', hne⟩ : ∃ l' ls', init ++ l :: ls = l' :: ls' := by cases init <;> simp
    rw [List.cons_append, hne, unlines_cons_cons, ← hne, ih]
    simp

/-- A start of the first line is a start of the joined text. -/
lemma unlines_append_left (s l : Text) (ls : List Text) :
    unlines ((s ++ l) :: ls) = s ++ unlines (l :: ls) := by
  induction s with
  | nil => rfl
  | cons c s ih => rw [List.cons_append, unlines_cons_append, ih, List.cons_append]

/-- Joined lines are a start of the text that goes on in the last one of them. -/
lemma unlines_prefix (init : List Text) (last l : Text) (ls : List Text) :
    unlines (init ++ [last]) <+: unlines (init ++ (last ++ l) :: ls) := by
  rw [unlines_append_cons, unlines_append_cons, unlines_append_left]
  have hlast : unlines [last] = last := by simp [unlines, List.intercalate]
  rw [hlast, ← List.append_assoc]
  exact List.prefix_append ..

/-! ### Hanging indents -/

/-- The lines that have content, each after `n` spaces. -/
def indentLines (n : Nat) (ls : List Text) : List Text :=
  (ls.filter fun l => !l.blank).map fun l => List.replicate n ' ' ++ l

/-- A line with content is indented between those before it and those after it. -/
lemma indentLines_append_cons (n : Nat) (init : List Text) {l : Text} (ls : List Text)
    (hl : l.blank = false) : indentLines n (init ++ l :: ls) =
      indentLines n init ++ (List.replicate n ' ' ++ l) :: indentLines n ls := by
  simp [indentLines, hl]

/-- **A text with a hanging indent**: its first line as it is, and every later line with content
after `n` spaces; later lines that are blank are dropped. -/
def hang (n : Nat) (s : Text) : Text := unlines (s.lines.head?.toList ++ indentLines n s.lines.tail)

/-- A hanging indent by the first line of the text and the lines after it. -/
lemma hang_eq {n : Nat} {s l : Text} {ls : List Text} (h : s.lines = l :: ls) :
    s.hang n = unlines (l :: indentLines n ls) := by
  rw [hang, h]
  rfl

/-- **A stretch within a line stays as it is.** -/
theorem hang_eq_self (n : Nat) {s : Text} (h : '\n' ∉ s) : s.hang n = s := by
  rw [hang_eq (lines_of_notMem h)]
  simp [indentLines, unlines, List.intercalate]

/-- A text with a visible character is not blank. -/
lemma blank_eq_false {s : Text} {c : Char} (hmem : c ∈ s) (hc : isBlank c = false) :
    s.blank = false :=
  List.all_eq_false.2 ⟨c, hmem, by simp [hc]⟩

/-- A visible character is no line feed. -/
lemma ne_newline {c : Char} (hc : isBlank c = false) : c ≠ '\n' := by
  rintro rfl
  cases hc

/-- From a visible character on, an indented text is the rest of the text with a hanging indent. -/
lemma hang_suffix_indent (n : Nat) (before : Text) {c : Char} (hc : isBlank c = false) (s : Text) :
    hang n (c :: s) <:+ indent n (before ++ c :: s) := by
  obtain ⟨l, ls, hs⟩ := exists_lines_eq_cons s
  have hlines : lines (c :: s) = (c :: l) :: ls := lines_cons_of_ne (ne_newline hc) hs
  obtain ⟨init, last, -, hall⟩ := lines_append (s := before) hlines
  have hblank : (last ++ c :: l).blank = false := blank_eq_false (by simp) hc
  rw [hang_eq hlines]
  show _ <:+ unlines (indentLines n (lines (before ++ c :: s)))
  rw [hall, indentLines_append_cons n init ls hblank, unlines_append_cons, ← List.append_assoc,
    unlines_append_left, ← List.append_assoc]
  exact List.suffix_append ..

/-- Up to a visible character, what follows makes no difference to a hanging indent. -/
lemma hang_prefix_append (n : Nat) (s : Text) {c : Char} (hc : isBlank c = false) (after : Text) :
    hang n (s ++ [c]) <+: hang n (s ++ [c] ++ after) := by
  obtain ⟨l, ls, hafter⟩ := exists_lines_eq_cons after
  have hchar : lines [c] = [[c]] := lines_cons_of_ne (ne_newline hc) rfl
  have hrest : lines ([c] ++ after) = ([c] ++ l) :: ls := lines_cons_of_ne (ne_newline hc) hafter
  obtain ⟨init, last, hinit, hpiece⟩ := lines_append (s := s) hchar
  obtain ⟨init', last', hinit', hall⟩ := lines_append (s := s) hrest
  obtain ⟨rfl, hlast⟩ := List.append_inj' (hinit.symm.trans hinit') rfl
  obtain rfl : last = last' := by simpa using hlast
  have hblank : ∀ t : Text, (last ++ [c] ++ t).blank = false := fun t =>
    blank_eq_false (by simp) hc
  rw [← List.append_assoc last] at hall
  rw [List.append_assoc]
  cases init with
  | nil =>
    rw [hang_eq hpiece, hang_eq hall]
    exact unlines_prefix [] _ _ _
  | cons first init =>
    have hpiece' : lines (s ++ [c]) = first :: (init ++ [last ++ [c]]) := hpiece
    have hall' : lines (s ++ ([c] ++ after)) = first :: (init ++ (last ++ [c] ++ l) :: ls) := hall
    have hlonger := unlines_prefix (first :: indentLines n init)
      (List.replicate n ' ' ++ (last ++ [c])) l (indentLines n ls)
    rw [hang_eq hpiece', hang_eq hall',
      indentLines_append_cons n init [] (by simpa using hblank []),
      indentLines_append_cons n init ls (hblank l),
      ← List.append_assoc (List.replicate n ' ') (last ++ [c]) l]
    exact hlonger

/-- **What indenting leaves of a stretch** of a text that starts and ends with a visible character:
the stretch with a hanging indent.

**Proof sketch.** The stretch is cut out in two steps. From its first character on, the indented
text is what follows with a hanging indent; and what follows the last character makes no difference
to what comes before it. -/
theorem hang_infix_indent (n : Nat) (before after middle : Text) {c d : Char}
    (hc : isBlank c = false) (hd : isBlank d = false) :
    hang n (c :: middle ++ [d]) <:+: indent n (before ++ (c :: middle ++ [d]) ++ after) := by
  have hfrom : hang n (c :: middle ++ [d] ++ after) <:+
      indent n (before ++ (c :: middle ++ [d] ++ after)) := hang_suffix_indent n before hc _
  rw [← List.append_assoc] at hfrom
  exact (hang_prefix_append n (c :: middle) hd after).isInfix.trans hfrom.isInfix

end Text

end OneFile
