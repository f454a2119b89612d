import Mathlib.Data.List.Forall2
import Mathlib.Order.Bounds.Basic
import OneFile.Proofs.Text.Hanging
import OneFile.Proofs.Text.Location
import OneFile.Proofs.Text.Search
import OneFile.Proofs.Text.Trim

/-!
# Moving a text to the left

`Text.dedent` takes the common margin of a text away. The margin is measured in bytes and taken away
in whole characters, so a line whose blanks are wider than one byte may keep one of them. The line
that the margin was measured on keeps none, which is why a second time changes nothing.

## Main definitions

* `OneFile.Text.LosesMargin` — a line before and after its margin is taken away.
* `OneFile.Text.Dedents` — what there is to say of a text that is moved to the left.

## Main results

* `OneFile.Text.lines_unlines` — lines that are joined are the lines of the joined text.
* `OneFile.Text.isLeast_commonMargin` — the common margin is the smallest one of a visible line.
* `OneFile.Text.losesMargin_dropMargin` — what a line loses.
* `OneFile.Text.dedent_eq_self` — a text with a visible line at the left border stays as it is.
-/

namespace OneFile.Text

/-! ### Lines of joined lines -/

/-- There is no line feed in a line. -/
lemma newline_notMem_of_mem_lines {s l : Text} (h : l ∈ s.lines) : '\n' ∉ l := by
  induction s generalizing l with
  | nil =>
    obtain rfl := List.mem_singleton.1 h
    exact List.not_mem_nil
  | cons c s ih =>
    obtain ⟨first, ls, hs⟩ := exists_lines_eq_cons s
    by_cases hc : c = '\n'
    · rw [lines, if_pos hc] at h
      rcases List.mem_cons.1 h with rfl | h
      · exact List.not_mem_nil
      · exact ih h
    · rw [lines_cons_of_ne hc hs] at h
      rcases List.mem_cons.1 h with rfl | h
      · have hfirst : '\n' ∉ first := ih (by rw [hs]; exact List.mem_cons_self)
        simp [hfirst, Ne.symm hc]
      · exact ih (by rw [hs]; exact List.mem_cons_of_mem _ h)

/-- One line is joined to itself. -/
lemma unlines_singleton (l : Text) : unlines [l] = l := by simp [unlines, List.intercalate]

/-- **Lines that are joined are the lines of the joined text.** -/
theorem lines_unlines {ls : List Text} (hne : ls ≠ []) (h : ∀ l ∈ ls, '\n' ∉ l) :
    (unlines ls).lines = ls := by
  induction ls with
  | nil => exact absurd rfl hne
  | cons l ls ih =>
    rw [List.forall_mem_cons] at h
    cases ls with
    | nil => rw [unlines_singleton, lines_of_notMem h.1]
    | cons l' ls => rw [unlines_cons_cons, lines_append_cons h.1, ih (by simp) h.2]

/-! ### The common margin -/

/-- **The common margin is the smallest one of a visible line**, if there is any. -/
theorem isLeast_commonMargin {ls : List Text} (h : ∃ l ∈ ls, l.blank = false) :
    IsLeast {m | ∃ l ∈ ls, l.blank = false ∧ l.margin = m} (commonMargin ls) := by
  have hmem : ∀ m, m ∈ (ls.filter fun l => !l.blank).map margin ↔
      ∃ l ∈ ls, l.blank = false ∧ l.margin = m := by simp [and_assoc]
  cases hmin : ((ls.filter fun l => !l.blank).map margin).min? with
  | none =>
    obtain ⟨l, hl, hvisible⟩ := h
    have hmargin := (hmem l.margin).2 ⟨l, hl, hvisible, rfl⟩
    rw [List.min?_eq_none_iff.1 hmin] at hmargin
    cases hmargin
  | some m =>
    have hcommon : commonMargin ls = m := congrArg (·.getD 0) hmin
    obtain ⟨hleast, hle⟩ := List.min?_eq_some_iff.1 hmin
    rw [hcommon]
    exact ⟨(hmem m).1 hleast, fun m' hm' => hle m' ((hmem m').2 hm')⟩

/-- No margin is smaller than the common one. -/
lemma commonMargin_le {ls : List Text} {l : Text} (hl : l ∈ ls) (hvisible : l.blank = false) :
    commonMargin ls ≤ l.margin :=
  (isLeast_commonMargin ⟨l, hl, hvisible⟩).2 ⟨l, hl, hvisible, rfl⟩

/-- There is no common margin where a visible line, if there is any, has none. -/
lemma commonMargin_eq_zero {ls : List Text}
    (h : ∀ l ∈ ls, l.blank = false → ∃ l ∈ ls, l.blank = false ∧ l.margin = 0) :
    commonMargin ls = 0 := by
  by_cases hvisible : ∃ l ∈ ls, l.blank = false
  · obtain ⟨l, hl, hl'⟩ := hvisible
    obtain ⟨l', hmem, hvisible', hmargin⟩ := h l hl hl'
    exact Nat.le_zero.1 (hmargin ▸ commonMargin_le hmem hvisible')
  · have hnone : ls.filter (fun l => !l.blank) = [] := by simpa using hvisible
    simp [commonMargin, hnone]

/-! ### One line -/

/-- **A line before and after it loses a margin** of `common` bytes: it lacks blanks at its two
ends and nothing else. Of a blank line nothing is left. A visible line loses at its start as many
bytes as there are up to the last character boundary within the margin, and ends visibly. -/
def LosesMargin (common : Nat) (line line' : Text) : Prop :=
  ∃ lead trail : Text, line = lead ++ line' ++ trail ∧ lead.blank = true ∧ trail.blank = true ∧
    (line.blank = true → line' = []) ∧
    (line.blank = false → IsGreatest {n | n ≤ common ∧ line.IsBoundary n} lead.size ∧
      ∀ c ∈ line'.getLast?, isBlank c = false)

/-- What is within the margin is blank. -/
lemma blank_within {n : Nat} {l : Text} (hn : n ≤ l.margin) : (within n l).blank = true := by
  have hsplit : within n l ++ dropWithin n l = l.takeWhile isBlank ++ l.dropWhile isBlank := by
    rw [within_append, List.takeWhile_append_dropWhile]
  obtain ⟨m, hm, -⟩ := exists_append_of_size_le hsplit ((size_within_le n l).trans hn)
  have hall : blank (l.takeWhile isBlank) = true := List.all_takeWhile
  rw [hm, blank_append, Bool.and_eq_true] at hall
  exact hall.1

/-- **A line loses its share of the common margin**, which no visible line falls short of. -/
theorem losesMargin_dropMargin {common : Nat} {l : Text}
    (hcommon : l.blank = false → common ≤ l.margin) :
    LosesMargin common l (dropMargin common l) := by
  obtain ⟨trail, htrail, hrest⟩ :=
    exists_trimEnd_append (dropWithin (min common l.margin) l)
  refine ⟨within (min common l.margin) l, trail, ?_, blank_within (Nat.min_le_right _ _), htrail,
    fun hblank => ?_, fun hvisible => ⟨?_, ?_⟩⟩
  · rw [dropMargin, List.append_assoc, ← hrest, within_append]
  · refine trimEnd_eq_nil_iff.2 (blank_of_suffix ⟨_, within_append (min common l.margin) l⟩ hblank)
  · rw [Nat.min_eq_left (hcommon hvisible)]
    exact ⟨⟨size_within_le common l, _, _, (within_append common l).symm, rfl⟩,
      fun n hn => le_size_within hn.2 hn.1⟩
  · exact fun c hc => visible_of_mem_getLast?_trimEnd hc

/-- A line is blank just if what is left of it is. -/
lemma LosesMargin.blank_eq {common : Nat} {l l' : Text} (h : LosesMargin common l l') :
    l'.blank = l.blank := by
  obtain ⟨lead, trail, rfl, hlead, htrail, -, -⟩ := h
  rw [blank_append, blank_append, hlead, htrail, Bool.true_and, Bool.and_true]

/-- Beyond the margin of a line stands what follows its leading blanks. -/
lemma dropWithin_margin (l : Text) : dropWithin l.margin l = l.dropWhile isBlank := by
  have hsplit := List.takeWhile_append_dropWhile (p := isBlank) (l := l)
  have hwithin : within l.margin l = l.takeWhile isBlank := by
    have hsize := within_size (l.takeWhile isBlank) (l.dropWhile isBlank)
    rwa [hsplit] at hsize
  have happ := within_append l.margin l
  rw [hwithin] at happ
  exact List.append_cancel_left (happ.trans hsplit.symm)

/-- There is no margin before a visible character. -/
lemma margin_eq_zero {c : Char} (hc : isBlank c = false) (s : Text) : margin (c :: s) = 0 := by
  simp [margin, hc]

/-- A visible line whose own margin is the common one loses all of its leading blanks. -/
lemma margin_dropMargin_margin {l : Text} (hvisible : l.blank = false) :
    (dropMargin l.margin l).margin = 0 := by
  rw [dropMargin, Nat.min_self, dropWithin_margin]
  cases hrest : l.dropWhile isBlank with
  | nil =>
    rw [blank, List.all_eq_true.2 (List.dropWhile_eq_nil_iff.1 hrest)] at hvisible
    cases hvisible
  | cons c rest =>
    have hc : isBlank c = false := eq_false_of_mem_head?_dropWhile (by rw [hrest]; rfl)
    obtain ⟨blanks, -, heq⟩ := exists_trimEnd_append (c :: rest)
    cases htrim : trimEnd (c :: rest) with
    | nil => rfl
    | cons d rest' =>
      rw [htrim, List.cons_append, List.cons.injEq] at heq
      exact margin_eq_zero (heq.1 ▸ hc) rest'

/-- Without a margin only the end of a line is trimmed. -/
lemma dropMargin_zero (l : Text) : dropMargin 0 l = l.trimEnd := by
  have hnone : dropWithin 0 l = l := by
    cases l with
    | nil => rfl
    | cons c l => rw [dropWithin, if_neg (Nat.not_le.2 c.utf8Size_pos)]
  rw [dropMargin, Nat.zero_min, hnone]

/-! ### Whole texts -/

/-- **Every line loses the common margin**, and no lines come or go. -/
theorem lines_dedent (s : Text) :
    s.dedent.lines = s.lines.map (dropMargin (commonMargin s.lines)) := by
  obtain ⟨first, ls, hs⟩ := exists_lines_eq_cons s
  refine lines_unlines (by simp [hs]) fun l hl => ?_
  obtain ⟨line, hline, rfl⟩ := List.mem_map.1 hl
  obtain ⟨lead, trail, heq, -⟩ := losesMargin_dropMargin (l := line) (commonMargin_le hline)
  intro hmem
  apply newline_notMem_of_mem_lines hline
  rw [heq]
  simp [hmem]

/-- The lines of a text, before and after it is moved to the left. -/
lemma losesMargin_lines_dedent (s : Text) :
    List.Forall₂ (LosesMargin (commonMargin s.lines)) s.lines s.dedent.lines := by
  rw [lines_dedent, List.forall₂_map_right_iff, List.forall₂_same]
  exact fun l hl => losesMargin_dropMargin (commonMargin_le hl)

/-- If a line is visible, then one is at the left border afterwards. -/
lemma exists_margin_eq_zero {s : Text} (h : ∃ l ∈ s.lines, l.blank = false) :
    ∃ l ∈ s.dedent.lines, l.blank = false ∧ l.margin = 0 := by
  obtain ⟨l, hl, hvisible, hmargin⟩ := (isLeast_commonMargin h).1
  have hlost := losesMargin_dropMargin (l := l) (commonMargin_le hl)
  refine ⟨_, lines_dedent s ▸ List.mem_map_of_mem hl, by rw [hlost.blank_eq, hvisible], ?_⟩
  rw [← hmargin]
  exact margin_dropMargin_margin hvisible

/-- **A text stays as it is** if its lines do not end in blanks, and one of its visible lines, if
there are any, is at the left border. -/
theorem dedent_eq_self {s : Text} (htrim : ∀ l ∈ s.lines, l.trimEnd = l)
    (hborder : ∀ l ∈ s.lines, l.blank = false → ∃ l ∈ s.lines, l.blank = false ∧ l.margin = 0) :
    s.dedent = s := by
  rw [dedent, commonMargin_eq_zero hborder]
  have hsame : s.lines.map (dropMargin 0) = s.lines := by
    rw [List.map_congr_left fun l hl => (dropMargin_zero l).trans (htrim l hl), List.map_id']
  rw [hsame, unlines_lines]

/-- The lines of a text that was moved to the left do not end in blanks. -/
lemma trimEnd_of_mem_lines_dedent {s l : Text} (h : l ∈ s.dedent.lines) : l.trimEnd = l := by
  rw [lines_dedent] at h
  obtain ⟨line, -, rfl⟩ := List.mem_map.1 h
  exact trimEnd_trimEnd _

/-- A text that was moved to the left has a visible line just if it had one before. -/
lemma exists_visible_of_dedent {s : Text} (h : ∃ l ∈ s.dedent.lines, l.blank = false) :
    ∃ l ∈ s.lines, l.blank = false := by
  obtain ⟨l', hl', hvisible⟩ := h
  rw [lines_dedent] at hl'
  obtain ⟨l, hl, rfl⟩ := List.mem_map.1 hl'
  exact ⟨l, hl, by rwa [(losesMargin_dropMargin (commonMargin_le hl)).blank_eq] at hvisible⟩

/-- **Moving a text to the left a second time changes nothing.** -/
theorem dedent_dedent (s : Text) : s.dedent.dedent = s.dedent :=
  dedent_eq_self (fun _ => trimEnd_of_mem_lines_dedent) fun l hl hvisible =>
    exists_margin_eq_zero (exists_visible_of_dedent ⟨l, hl, hvisible⟩)

/-- **A text is moved to the left.** There are as many lines as before. Each of them loses the
common margin, which is the smallest one of a visible line, and the blanks at its end; if there is a
visible line, then one is at the left border afterwards, so that a second time changes nothing. -/
structure Dedents (s : Text) : Prop where
  length_lines : s.dedent.lines.length = s.lines.length
  lines : List.Forall₂ (LosesMargin (commonMargin s.lines)) s.lines s.dedent.lines
  isLeast : (∃ l ∈ s.lines, l.blank = false) →
    IsLeast {m | ∃ l ∈ s.lines, l.blank = false ∧ l.margin = m} (commonMargin s.lines)
  border : (∃ l ∈ s.lines, l.blank = false) → ∃ l ∈ s.dedent.lines, l.blank = false ∧ l.margin = 0
  again : s.dedent.dedent = s.dedent

/-- Every text is moved to the left like this. -/
theorem dedents (s : Text) : Dedents s where
  length_lines := (losesMargin_lines_dedent s).length_eq.symm
  lines := losesMargin_lines_dedent s
  isLeast := isLeast_commonMargin
  border := exists_margin_eq_zero
  again := dedent_dedent s

end OneFile.Text
