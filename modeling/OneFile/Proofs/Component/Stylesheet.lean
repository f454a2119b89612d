import OneFile.Component.Assemble
import OneFile.Proofs.Script.OnLines
import OneFile.Proofs.Text.Margin

/-!
# What becomes of style blocks

A stylesheet is put together from style blocks. Each block is moved to the left on its own and loses
the blank lines at its two ends, and blocks without content are left out. What comes out is again
such a block, so that putting it together once more changes nothing.

## Main definitions

* `OneFile.Text.trimBlankLines` — lines without the blank ones at their ends.
* `OneFile.Text.LaidOut` — lines that putting together leaves as they are.
* `OneFile.Buckets.JoinsStyles` — what there is to say of a stylesheet.

## Main results

* `OneFile.Buckets.styleBlockText_eq` — trimming line feeds is trimming blank lines.
* `OneFile.Buckets.styleText_eq_onLines` — a stylesheet by its lines.
* `OneFile.Buckets.styles_keep_content` — style blocks are moved to the left and joined without
  losing content.

## Design

A block loses the line feeds at its ends, not blank lines. The two are the same as no line of a
block that was moved to the left has blanks at its end, so that the blank ones are empty.
-/

namespace OneFile

namespace Text

/-! ### Lines at the ends -/

/-- The lines without the blank ones before the first and after the last visible one. -/
def trimBlankLines (ls : List Text) : List Text := (ls.dropWhile blank).rdropWhile blank

/-- A line without a line feed, and without blanks at its end. -/
def IsTrimmedLine (l : Text) : Prop := '\n' ∉ l ∧ l.trimEnd = l

/-- A trimmed line is blank only if it is empty. -/
lemma IsTrimmedLine.eq_nil {l : Text} (h : IsTrimmedLine l) (hblank : l.blank = true) : l = [] :=
  h.2.symm.trans (trimEnd_eq_nil_iff.2 hblank)

/-- The lines of a text that was moved to the left are trimmed. -/
lemma isTrimmedLine_of_mem_lines_dedent {s l : Text} (h : l ∈ s.dedent.lines) : IsTrimmedLine l :=
  ⟨newline_notMem_of_mem_lines h, trimEnd_of_mem_lines_dedent h⟩

/-- **Line feeds at the start are blank lines at the start.** -/
lemma dropWhile_unlines {ls : List Text} (h : ∀ l ∈ ls, IsTrimmedLine l) :
    (unlines ls).dropWhile (· == '\n') = unlines (ls.dropWhile blank) := by
  induction ls with
  | nil => rfl
  | cons l ls ih =>
    rw [List.forall_mem_cons] at h
    cases hblank : l.blank with
    | true =>
      obtain rfl := h.1.eq_nil hblank
      rw [List.dropWhile_cons_of_pos (by rfl), ← ih h.2]
      cases ls with
      | nil => rfl
      | cons l' ls => rw [unlines_cons_cons, List.nil_append]; rfl
    | false =>
      rw [List.dropWhile_cons_of_neg (by simp [hblank])]
      cases l with
      | nil => cases hblank
      | cons c l =>
        have hc : c ≠ '\n' := fun hc => h.1.1 (by simp [hc])
        rw [unlines_cons_append, List.dropWhile_cons_of_neg (by simpa using hc)]

/-- Lines that an empty one follows are on lines of their own. -/
lemma unlines_concat_nil (ls : List Text) : unlines (ls ++ [[]]) = onLines ls := by
  rw [unlines_append_cons, unlines_singleton, List.append_nil]
  rfl

/-- A line feed after joined lines puts them on lines of their own. -/
lemma unlines_append_newline {ls : List Text} (hne : ls ≠ []) :
    unlines ls ++ ['\n'] = onLines ls := by
  obtain ⟨init, last, rfl⟩ := (List.eq_nil_or_concat ls).resolve_left hne
  rw [List.concat_eq_append, unlines_append_cons, unlines_singleton]
  simp [onLines]

/-- **Line feeds at the end are blank lines at the end.** -/
lemma rdropWhile_unlines {ls : List Text} (h : ∀ l ∈ ls, IsTrimmedLine l) :
    (unlines ls).rdropWhile (· == '\n') = unlines (ls.rdropWhile blank) := by
  induction ls using List.reverseRecOn with
  | nil => rfl
  | append_singleton ls l ih =>
    have hl : IsTrimmedLine l := h l (by simp)
    have hls : ∀ l ∈ ls, IsTrimmedLine l := fun l hl => h l (by simp [hl])
    cases hblank : l.blank with
    | true =>
      obtain rfl := hl.eq_nil hblank
      rw [List.rdropWhile_concat_pos _ _ _ (by rfl), ← ih hls]
      by_cases hne : ls = []
      · subst hne
        rfl
      · rw [unlines_concat_nil, ← unlines_append_newline hne,
          List.rdropWhile_concat_pos _ _ _ (by rfl)]
    | false =>
      obtain ⟨init, c, rfl⟩ : ∃ init c, l = init ++ [c] := by
        rcases List.eq_nil_or_concat l with rfl | ⟨init, c, rfl⟩
        · cases hblank
        · exact ⟨init, c, List.concat_eq_append⟩
      have hc : c ≠ '\n' := fun hc => hl.1 (by simp [hc])
      rw [List.rdropWhile_concat_neg _ _ _ (by simp [hblank]), unlines_append_cons,
        unlines_singleton, ← List.append_assoc,
        List.rdropWhile_concat_neg _ _ _ (by simpa using hc)]

/-- A visible line is not trimmed away. -/
lemma mem_trimBlankLines {ls : List Text} {l : Text} (h : l ∈ ls) (hvisible : l.blank = false) :
    l ∈ trimBlankLines ls := by
  have hdrop : l ∈ ls.dropWhile blank := by
    rw [← List.takeWhile_append_dropWhile (p := blank) (l := ls), List.mem_append] at h
    refine h.resolve_left fun hmem => ?_
    rw [List.mem_takeWhile_imp hmem] at hvisible
    cases hvisible
  rw [← List.rdropWhile_append_rtakeWhile (p := blank) (l := ls.dropWhile blank),
    List.mem_append] at hdrop
  refine hdrop.resolve_right fun hmem => ?_
  rw [List.mem_rtakeWhile_imp hmem] at hvisible
  cases hvisible

/-- What is left of lines that are trimmed was among them. -/
lemma mem_of_mem_trimBlankLines {ls : List Text} {l : Text} (h : l ∈ trimBlankLines ls) : l ∈ ls :=
  (List.dropWhile_sublist _).mem ((List.rdropWhile_prefix blank _).mem h)

/-- Trimming leaves no lines just if all of them are blank. -/
lemma trimBlankLines_eq_nil_iff {ls : List Text} :
    trimBlankLines ls = [] ↔ ∀ l ∈ ls, l.blank = true := by
  constructor
  · intro h l hl
    by_contra hvisible
    have hmem := mem_trimBlankLines hl (Bool.eq_false_iff.2 hvisible)
    rw [h] at hmem
    cases hmem
  · intro h
    rw [trimBlankLines, List.dropWhile_eq_nil_iff.2 h, List.rdropWhile_nil]

/-- Lines that are trimmed begin with a visible one. -/
lemma visible_of_mem_head?_trimBlankLines {ls : List Text} {l : Text}
    (h : l ∈ (trimBlankLines ls).head?) : l.blank = false := by
  obtain ⟨rest, hrest⟩ := List.rdropWhile_prefix blank (ls.dropWhile blank)
  have hfirst := List.head?_dropWhile_not blank ls
  rw [← hrest, List.head?_append, show (ls.dropWhile blank).rdropWhile blank = trimBlankLines ls
    from rfl, Option.mem_def.1 h] at hfirst
  exact hfirst

/-- Lines that are trimmed end with a visible one. -/
lemma visible_of_mem_getLast?_trimBlankLines {ls : List Text} {l : Text}
    (h : l ∈ (trimBlankLines ls).getLast?) : l.blank = false := by
  obtain ⟨hne, rfl⟩ := List.mem_getLast?_eq_getLast h
  exact Bool.eq_false_iff.2 (List.rdropWhile_last_not blank _ hne)

/-- The lines of texts on lines of their own, and the empty line after them. -/
lemma lines_onLines {ls : List Text} (h : ∀ l ∈ ls, '\n' ∉ l) :
    (onLines ls).lines = ls ++ [[]] := by
  rw [← unlines_concat_nil]
  refine lines_unlines (by simp) (List.forall_mem_append.2 ⟨h, ?_⟩)
  simp

/-! ### Lines that are laid out -/

/-- **Laid out lines** are trimmed, begin and end with a visible one, and one of the visible ones is
at the left border. -/
structure LaidOut (ls : List Text) : Prop where
  trimmed : ∀ l ∈ ls, IsTrimmedLine l
  head : ∀ l ∈ ls.head?, l.blank = false
  last : ∀ l ∈ ls.getLast?, l.blank = false
  border : ls ≠ [] → ∃ l ∈ ls, l.blank = false ∧ l.margin = 0

/-- No lines are laid out. -/
lemma laidOut_nil : LaidOut [] := ⟨by simp, by simp, by simp, fun h => absurd rfl h⟩

/-- Laid out lines after others are laid out together. -/
lemma LaidOut.append {ls ls' : List Text} (h : LaidOut ls) (h' : LaidOut ls') :
    LaidOut (ls ++ ls') := by
  by_cases hne : ls = []
  · subst hne
    exact h'
  by_cases hne' : ls' = []
  · subst hne'
    rwa [List.append_nil]
  refine ⟨?_, ?_, ?_, fun _ => ?_⟩
  · exact List.forall_mem_append.2 ⟨h.trimmed, h'.trimmed⟩
  · rw [List.head?_append_of_ne_nil _ hne]
    exact h.head
  · rw [List.getLast?_append_of_ne_nil _ hne']
    exact h'.last
  · obtain ⟨l, hl, hborder⟩ := h.border hne
    exact ⟨l, List.mem_append_left _ hl, hborder⟩

/-! ### One block -/

/-- The lines that a block leaves: without their common margin and without the blank ones at both
ends. -/
def blockLines (s : Text) : List Text := trimBlankLines s.dedent.lines

/-- **The lines that a block leaves are laid out.** -/
theorem laidOut_blockLines (s : Text) : LaidOut (blockLines s) where
  trimmed l hl := isTrimmedLine_of_mem_lines_dedent (mem_of_mem_trimBlankLines hl)
  head _ := visible_of_mem_head?_trimBlankLines
  last _ := visible_of_mem_getLast?_trimBlankLines
  border hne := by
    obtain ⟨first, rest, hfirst⟩ := List.exists_cons_of_ne_nil hne
    have hvisible : first.blank = false :=
      visible_of_mem_head?_trimBlankLines (show first ∈ (blockLines s).head? by rw [hfirst]; rfl)
    have hmem : first ∈ s.dedent.lines :=
      mem_of_mem_trimBlankLines (show first ∈ blockLines s by rw [hfirst]; exact List.mem_cons_self)
    obtain ⟨l, hl, hl', hborder⟩ :=
      exists_margin_eq_zero (exists_visible_of_dedent ⟨first, hmem, hvisible⟩)
    exact ⟨l, mem_trimBlankLines hl hl', hl', hborder⟩

/-- **A block of laid out lines leaves just these lines.** -/
theorem LaidOut.blockLines_onLines {ls : List Text} (h : LaidOut ls) :
    blockLines (onLines ls) = ls := by
  have hlines := lines_onLines fun l hl => (h.trimmed l hl).1
  have hsame : (onLines ls).dedent = onLines ls := by
    refine dedent_eq_self ?_ ?_
    · rw [hlines]
      exact List.forall_mem_append.2 ⟨fun l hl => (h.trimmed l hl).2, by simp [trimEnd]⟩
    · rw [hlines]
      intro l hl hvisible
      have hne : ls ≠ [] := by
        rintro rfl
        rw [List.nil_append, List.mem_singleton] at hl
        subst hl
        cases hvisible
      obtain ⟨l', hl', hborder⟩ := h.border hne
      exact ⟨l', List.mem_append_left _ hl', hborder⟩
  rw [blockLines, hsame, hlines, trimBlankLines]
  cases ls with
  | nil => rfl
  | cons first ls =>
    have hfirst : first.blank = false := h.head first rfl
    rw [List.cons_append, List.dropWhile_cons_of_neg (by simp [hfirst]), ← List.cons_append,
      List.rdropWhile_concat_pos _ _ _ (by rfl), List.rdropWhile_eq_self_iff]
    intro hne
    exact Bool.eq_false_iff.1 (h.last _ (List.getLast?_eq_some_getLast hne))

end Text

open Text

namespace Buckets

/-! ### The stylesheet -/

/-- **A block loses its blank lines at both ends.** -/
theorem styleBlockText_eq (s : Text) : styleBlockText s = unlines (blockLines s) := by
  have htrimmed : ∀ l ∈ s.dedent.lines, IsTrimmedLine l := fun l hl =>
    isTrimmedLine_of_mem_lines_dedent hl
  have htext : (s.dedent.dropWhile (· == '\n')).rdropWhile (· == '\n') = styleBlockText s := rfl
  rw [← htext, ← unlines_lines s.dedent, dropWhile_unlines htrimmed, rdropWhile_unlines
    fun l hl => htrimmed l ((List.dropWhile_sublist _).mem hl)]
  rfl

/-- A block leaves no lines just if it is blank. -/
lemma blockLines_eq_nil_iff {s : Text} : blockLines s = [] ↔ s.blank = true := by
  rw [blockLines, trimBlankLines_eq_nil_iff, blank_iff_lines]
  constructor
  · intro h l hl
    by_contra hvisible
    obtain ⟨l', hl', hvisible', -⟩ :=
      exists_margin_eq_zero ⟨l, hl, Bool.eq_false_iff.2 hvisible⟩
    rw [h l' hl'] at hvisible'
    cases hvisible'
  · intro h l hl
    by_contra hvisible
    obtain ⟨l', hl', hvisible'⟩ := exists_visible_of_dedent ⟨l, hl, Bool.eq_false_iff.2 hvisible⟩
    rw [h l' hl'] at hvisible'
    cases hvisible'

/-- A block leaves an empty text just if it is blank. -/
lemma styleBlockText_eq_nil_iff {s : Text} : styleBlockText s = [] ↔ s.blank = true := by
  rw [← blockLines_eq_nil_iff, styleBlockText_eq]
  constructor
  · intro h
    by_contra hne
    have hlines := lines_unlines hne fun l hl => ((laidOut_blockLines s).trimmed l hl).1
    rw [h] at hlines
    have hvisible : blank [] = false := (laidOut_blockLines s).head [] (by rw [← hlines]; rfl)
    cases hvisible
  · intro h
    rw [h]
    rfl

/-- **A stylesheet is the lines that its blocks leave**, on lines of their own. -/
theorem styleText_eq_onLines (b : Buckets) :
    b.styleText = onLines (b.styles.flatMap fun p => blockLines p.text) := by
  have hblock : ∀ s, (if (styleBlockText s).isEmpty then [] else styleBlockText s ++ ['\n']) =
      onLines (blockLines s) := by
    intro s
    by_cases hblank : s.blank = true
    · rw [styleBlockText_eq_nil_iff.2 hblank, blockLines_eq_nil_iff.2 hblank]
      rfl
    · have hne : styleBlockText s ≠ [] := fun h => hblank (styleBlockText_eq_nil_iff.1 h)
      have hlines : blockLines s ≠ [] := fun h => hblank (blockLines_eq_nil_iff.1 h)
      rw [if_neg (by simpa using hne), styleBlockText_eq, unlines_append_newline hlines]
  rw [styleText, onLines, List.flatMap_assoc]
  exact congrArg (b.styles.flatMap ·) (funext fun p => hblock p.text)

/-- The lines of a stylesheet are laid out. -/
lemma laidOut_styles (styles : List Piece) :
    LaidOut (styles.flatMap fun p => blockLines p.text) := by
  induction styles with
  | nil => exact laidOut_nil
  | cons p styles ih => exact (laidOut_blockLines p.text).append ih

/-- A stylesheet has nothing of blank blocks, and each other one with a line feed after it. -/
lemma styleText_eq_flatMap_filter (b : Buckets) :
    b.styleText = (b.styles.filter fun p => !p.text.blank).flatMap fun p =>
      unlines (trimBlankLines p.text.dedent.lines) ++ ['\n'] := by
  rw [styleText_eq_onLines]
  induction b.styles with
  | nil => rfl
  | cons p styles ih =>
    have hcons : onLines ((p :: styles).flatMap fun p => blockLines p.text) =
        onLines (blockLines p.text) ++ onLines (styles.flatMap fun p => blockLines p.text) :=
      List.flatMap_append
    rw [hcons, ih]
    by_cases hblank : p.text.blank = true
    · rw [blockLines_eq_nil_iff.2 hblank, List.filter_cons_of_neg (by simp [hblank])]
      rfl
    · have hlines : blockLines p.text ≠ [] := fun h => hblank (blockLines_eq_nil_iff.1 h)
      rw [← unlines_append_newline hlines, List.filter_cons_of_pos (by simp [hblank])]
      rfl

/-- A stylesheet is empty just if all of its blocks are blank. -/
lemma styleText_eq_nil_iff (b : Buckets) :
    b.styleText = [] ↔ ∀ p ∈ b.styles, p.text.blank = true := by
  rw [styleText_eq_flatMap_filter, List.flatMap_eq_nil_iff]
  simp

/-- **A stylesheet comes out as it is** when it is taken for a block itself. -/
theorem styleText_styleText (b : Buckets) (range : Option Span) :
    styleText { styles := [⟨b.styleText, range⟩] } = b.styleText := by
  rw [styleText_eq_onLines b, styleText_eq_onLines, List.flatMap_singleton,
    (laidOut_styles b.styles).blockLines_onLines]

/-- **A stylesheet is joined from its blocks**: those that are not blank, in order, each of them
moved to the left, without its blank lines at both ends and with a line feed after it. It is empty
just if all blocks are blank, and a stylesheet as a block comes out as it is. -/
structure JoinsStyles (b : Buckets) : Prop where
  blocks : b.styleText = (b.styles.filter fun p => !p.text.blank).flatMap fun p =>
    unlines (trimBlankLines p.text.dedent.lines) ++ ['\n']
  eq_nil_iff : b.styleText = [] ↔ ∀ p ∈ b.styles, p.text.blank = true
  again : ∀ range, styleText { styles := [⟨b.styleText, range⟩] } = b.styleText

/-- **Style blocks keep their content.** Moving a text to the left keeps its lines, each of which
loses nothing but blanks at its two ends: a visible one the common margin, up to the last character
boundary within it, and a blank one all. A second time changes nothing. A stylesheet is joined from
its blocks that are not blank, each moved to the left and without its blank lines at both ends; it
is empty just if there are none, and comes out as it is when it is taken for a block itself.

**Proof sketch.** The lines that a block leaves are laid out, and so are those of several blocks. Of
a block of laid out lines nothing is taken away but the line feed at its end. -/
theorem styles_keep_content (s : Text) (b : Buckets) : Dedents s ∧ b.JoinsStyles :=
  ⟨dedents s, b.styleText_eq_flatMap_filter, b.styleText_eq_nil_iff, b.styleText_styleText⟩

end Buckets

end OneFile
