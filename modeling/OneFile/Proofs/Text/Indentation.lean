import OneFile.Proofs.Text.Margin

/-!
# Indenting a text

`Text.indent` puts spaces before the lines that have content and drops the others, and `Text.dedent`
takes the common margin of a text away. Spaces in front of every line raise the margin of each by
the same number of bytes, and with it the common margin and every boundary up to it. So what moving
a text to the left makes of it does not depend on how far it was indented, also where its own blanks
are wider than one byte.

## Main definitions

* `OneFile.Text.Indents` — the laws of indenting a text.

## Main results

* `OneFile.Text.indent_eq_nil_iff` — indenting leaves nothing of blank texts only.
* `OneFile.Text.lines_indent` — the lines of an indented text.
* `OneFile.Text.commonMargin_indentLines` — indenting raises the common margin.
* `OneFile.Text.dropMargin_replicate_append` — a line loses as much more as it was indented by.
* `OneFile.Text.indents` — the laws hold of every text.
-/

namespace OneFile.Text

/-! ### The lines of an indented text -/

/-- Blank lines are dropped, and only those. -/
lemma indentLines_eq_nil_iff {n : Nat} {s : Text} :
    indentLines n s.lines = [] ↔ s.blank = true := by
  rw [indentLines, List.map_eq_nil_iff, List.filter_eq_nil_iff, blank_iff_lines]
  simp

/-- An indented line is visible and has no line feed in it. -/
lemma visible_of_mem_indentLines {n : Nat} {s l : Text} (h : l ∈ indentLines n s.lines) :
    l.blank = false ∧ '\n' ∉ l := by
  obtain ⟨line, hline, rfl⟩ := List.mem_map.1 h
  obtain ⟨hmem, hvisible⟩ := List.mem_filter.1 hline
  have hnewline := newline_notMem_of_mem_lines hmem
  refine ⟨?_, ?_⟩
  · rw [blank_append, Bool.and_eq_false_iff]
    exact .inr (by simpa using hvisible)
  · simp [hnewline]

/-- **The lines of an indented text** are the indented lines, if there are any. -/
theorem lines_indent (n : Nat) {s : Text} (h : s.blank = false) :
    (s.indent n).lines = indentLines n s.lines := by
  have hne : indentLines n s.lines ≠ [] := fun hnil => by
    rw [indentLines_eq_nil_iff.1 hnil] at h
    cases h
  exact lines_unlines hne fun l hl => (visible_of_mem_indentLines hl).2

/-- **Indenting leaves nothing of blank texts only.** -/
theorem indent_eq_nil_iff {n : Nat} {s : Text} : s.indent n = [] ↔ s.blank = true := by
  constructor
  · intro h
    by_contra hvisible
    have hlines := lines_indent n (Bool.eq_false_iff.2 hvisible)
    rw [h] at hlines
    have hline := visible_of_mem_indentLines (l := [])
      (hlines ▸ List.mem_singleton.2 rfl : [] ∈ indentLines n s.lines)
    cases hline.1
  · intro h
    exact congrArg unlines (indentLines_eq_nil_iff.2 h)

/-- Indented lines are visible, so none of them is dropped. -/
lemma filter_indentLines (n : Nat) (ls : List Text) :
    (indentLines n ls).filter (fun l => !l.blank) = indentLines n ls := by
  refine List.filter_eq_self.2 fun l hl => ?_
  obtain ⟨line, hline, rfl⟩ := List.mem_map.1 hl
  have hvisible : line.blank = false := by simpa using (List.mem_filter.1 hline).2
  simp [hvisible]

/-- Lines that are indented twice are indented by both numbers. -/
lemma indentLines_indentLines (a b : Nat) (ls : List Text) :
    indentLines b (indentLines a ls) = indentLines (a + b) ls := by
  have hpad : ∀ l : Text, List.replicate b ' ' ++ (List.replicate a ' ' ++ l) =
      List.replicate (a + b) ' ' ++ l := by
    intro l
    rw [← List.append_assoc, List.replicate_append_replicate, Nat.add_comm]
  rw [indentLines, filter_indentLines, indentLines, List.map_map, indentLines]
  exact List.map_congr_left fun l _ => hpad l

/-- **A text that is indented twice is indented by both numbers.** -/
theorem indent_indent (a b : Nat) (s : Text) : (s.indent a).indent b = s.indent (a + b) := by
  cases h : s.blank with
  | true =>
    rw [indent_eq_nil_iff.2 h, indent_eq_nil_iff.2 h]
    exact indent_eq_nil_iff.2 rfl
  | false =>
    show unlines (indentLines b (s.indent a).lines) = unlines (indentLines (a + b) s.lines)
    rw [lines_indent a h, indentLines_indentLines]

/-! ### Margins of indented lines -/

/-- Spaces before a line widen its margin by a byte each. -/
lemma margin_replicate_append (n : Nat) (l : Text) :
    margin (List.replicate n ' ' ++ l) = n + l.margin := by
  induction n with
  | zero => simp
  | succ n ih =>
    have hspace : margin (' ' :: (List.replicate n ' ' ++ l)) =
        1 + margin (List.replicate n ' ' ++ l) := rfl
    rw [List.replicate_succ, List.cons_append, hspace, ih]
    omega

/-- **Indenting raises the common margin**, by a byte for each space. -/
theorem commonMargin_indentLines (n : Nat) {ls : List Text} (h : ∃ l ∈ ls, l.blank = false) :
    commonMargin (indentLines n ls) = n + commonMargin ls := by
  obtain ⟨⟨l, hl, hvisible, hmargin⟩, hleast⟩ := isLeast_commonMargin h
  have hmem : ∀ l ∈ ls, l.blank = false →
      List.replicate n ' ' ++ l ∈ indentLines n ls ∧
        blank (List.replicate n ' ' ++ l) = false := by
    intro l hl hvisible
    refine ⟨List.mem_map_of_mem (List.mem_filter.2 ⟨hl, by simp [hvisible]⟩), ?_⟩
    rw [blank_append, hvisible, Bool.and_false]
  have hindented := hmem l hl hvisible
  refine (isLeast_commonMargin ⟨_, hindented⟩).unique ⟨⟨_, hindented.1, hindented.2, ?_⟩, ?_⟩
  · rw [margin_replicate_append, hmargin]
  · rintro m ⟨l', hl', -, rfl⟩
    obtain ⟨line, hline, rfl⟩ := List.mem_map.1 hl'
    obtain ⟨hline, hcontent⟩ := List.mem_filter.1 hline
    have hle := hleast ⟨line, hline, by simpa using hcontent, rfl⟩
    rw [margin_replicate_append]
    omega

/-- Spaces are within the margin, and what is beyond them is beyond it by as much less. -/
lemma dropWithin_replicate_append (n cut : Nat) (l : Text) :
    dropWithin (n + cut) (List.replicate n ' ' ++ l) = dropWithin cut l := by
  induction n with
  | zero => simp
  | succ n ih =>
    have hspace : (' ').utf8Size = 1 := rfl
    rw [List.replicate_succ, List.cons_append, dropWithin, hspace, if_pos (by omega)]
    have hcut : n + 1 + cut - 1 = n + cut := by omega
    rw [hcut, ih]

/-- **A line loses as much more as it was indented by.** -/
theorem dropMargin_replicate_append (n common : Nat) (l : Text) :
    dropMargin (n + common) (List.replicate n ' ' ++ l) = dropMargin common l := by
  rw [dropMargin, margin_replicate_append, Nat.add_min_add_left, dropWithin_replicate_append,
    dropMargin]

/-! ### Moving an indented text to the left -/

/-- A line that lost its margin has content just if it had some before. -/
lemma blank_dropMargin {ls : List Text} {l : Text} (hl : l ∈ ls) :
    (dropMargin (commonMargin ls) l).blank = l.blank :=
  (losesMargin_dropMargin (commonMargin_le hl)).blank_eq

/-- **Moving a text to the left undoes indenting**: but for the blank lines, what is left is the
text moved to the left without having been indented.

**Proof sketch.** The lines of the indented text have the common margin of the text's own ones and
the spaces on top of it, so each of them loses its spaces and what it would have lost without
them. -/
theorem dedent_indent (n : Nat) (s : Text) : (s.indent n).dedent = s.dedent.indent 0 := by
  have hdropped : s.dedent.indent 0 =
      unlines ((s.lines.filter fun l => !l.blank).map (dropMargin (commonMargin s.lines))) := by
    have hsame : s.lines.filter ((fun l => !l.blank) ∘ dropMargin (commonMargin s.lines)) =
        s.lines.filter fun l => !l.blank :=
      List.filter_congr fun l hl => by rw [Function.comp_apply, blank_dropMargin hl]
    rw [indent, lines_dedent, List.filter_map, hsame, List.map_map]
    rfl
  cases h : s.blank with
  | true =>
    have hnone : (s.lines.filter fun l => !l.blank) = [] := by
      rw [List.filter_eq_nil_iff]
      intro l hl
      simp [blank_iff_lines.1 h l hl]
    rw [hdropped, hnone, indent_eq_nil_iff.2 h]
    rfl
  | false =>
    have hvisible : ∃ l ∈ s.lines, l.blank = false := by
      by_contra hnone
      rw [blank_iff_lines.2 fun l hl => by simpa using fun hl' => hnone ⟨l, hl, hl'⟩] at h
      cases h
    rw [hdropped, dedent, lines_indent n h, commonMargin_indentLines n hvisible, indentLines,
      List.map_map]
    exact congrArg unlines (List.map_congr_left fun l _ => dropMargin_replicate_append n _ l)

/-- **A text is indented.** Its lines with content come in order, each after the spaces and
otherwise unchanged, and nothing else does. Indenting adds up, and moving to the left undoes it. -/
structure Indents (s : Text) : Prop where
  lines : ∀ n, (∃ l ∈ s.lines, l.blank = false) → (s.indent n).lines =
    (s.lines.filter fun l => !l.blank).map fun l => List.replicate n ' ' ++ l
  empty : ∀ n, (∀ l ∈ s.lines, l.blank = true) → s.indent n = []
  again : ∀ a b, (s.indent a).indent b = s.indent (a + b)
  dedent : ∀ n, (s.indent n).dedent = (s.indent 0).dedent
  dedent_first : ∀ n, (s.indent n).dedent = s.dedent.indent 0

/-- Every text is indented like this. -/
theorem indents (s : Text) : Indents s where
  lines n h := by
    obtain ⟨l, hl, hvisible⟩ := h
    refine lines_indent n (Bool.eq_false_iff.2 fun hblank => ?_)
    rw [blank_iff_lines.1 hblank l hl] at hvisible
    cases hvisible
  empty _ h := indent_eq_nil_iff.2 (blank_iff_lines.2 h)
  again a b := indent_indent a b s
  dedent n := by rw [dedent_indent, dedent_indent]
  dedent_first n := dedent_indent n s

/-- The second line has a wide blank, of which two bytes lie beyond the margin of the first one. -/
example : (dedent (indent 2 " a\n\u2003b\n \n".toList), dedent " a\n\u2003b\n \n".toList) =
    ("a\n\u2003b".toList, "a\n\u2003b\n\n".toList) := by
  decide +kernel

end OneFile.Text
