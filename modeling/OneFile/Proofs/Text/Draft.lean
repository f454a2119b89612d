import OneFile.Text.Layout
import OneFile.Proofs.Text.Lines

/-!
# Texts with gaps

A draft is a text in which some places are left open. Whatever is put into the gaps, the text
around them is the same; with nothing put into them it is the text alone. So two texts differ by
insertions only if they are one draft filled in two ways.

## Main definitions

* `OneFile.Draft` — a text with labelled gaps.
* `OneFile.Draft.fill` — the text with something put into every gap.
* `OneFile.Draft.gaps` — the labels of the gaps, in order.
* `OneFile.Draft.GapsBefore` — every gap stands right before one of some marks.
* `OneFile.Draft.indent` — indentation, for drafts.

## Main results

* `OneFile.Draft.lines_fill` — the lines of a filled draft are its filled lines.
* `OneFile.Draft.fill_indent` — indenting and filling commute.
* `OneFile.Draft.gaps_indent` — no gap is lost.

## Design

Indenting drops blank lines, so what is put into a gap could keep a line from being dropped. It
cannot if the gap stands before a mark that is not blank and has no line feed in it: then the line
of the gap is not blank anyway. This is why drafts are indented under `GapsBefore` only.
-/

namespace OneFile

/-- A character, or a place that is left open. -/
inductive Glyph (α : Type) where
  | char (c : Char)
  | gap (label : α)
deriving DecidableEq

/-- A text with gaps. -/
abbrev Draft (α : Type) := List (Glyph α)

namespace Draft

variable {α : Type}

/-- A text without gaps. -/
def ofText (s : Text) : Draft α := s.map .char

/-- What stands for a glyph when `ins` is put into gaps. -/
def glyphText (ins : Text) : Glyph α → Text
  | .char c => [c]
  | .gap _ => ins

/-- The text with `ins` in every gap. -/
def fill (ins : Text) (d : Draft α) : Text := d.flatMap (glyphText ins)

/-- The label of a gap. -/
def label? : Glyph α → Option α
  | .char _ => none
  | .gap label => some label

/-- The labels of all gaps, in order. -/
def gaps (d : Draft α) : List α := d.filterMap label?

/-- **Every gap stands right before one of the marks.** -/
def GapsBefore (marks : List Text) : Draft α → Prop
  | [] => True
  | .char _ :: d => GapsBefore marks d
  | .gap _ :: d => (∃ mark ∈ marks, ofText mark <+: d) ∧ GapsBefore marks d

variable {d e : Draft α} {ins : Text} {marks : List Text}

/-! ### Putting drafts together -/

/-- An empty draft is filled to nothing. -/
@[simp] lemma fill_nil : fill ins ([] : Draft α) = [] := rfl

/-- A character stays as it is. -/
@[simp] lemma fill_cons_char (c : Char) (d : Draft α) : fill ins (.char c :: d) = c :: fill ins d :=
  rfl

/-- A gap is filled. -/
@[simp] lemma fill_cons_gap (label : α) (d : Draft α) :
    fill ins (.gap label :: d) = ins ++ fill ins d := rfl

/-- Drafts one after another are filled one after another. -/
@[simp] lemma fill_append (d e : Draft α) : fill ins (d ++ e) = fill ins d ++ fill ins e :=
  List.flatMap_append

/-- Texts one after another are drafts one after another. -/
@[simp] lemma ofText_append (s t : Text) : (ofText (s ++ t) : Draft α) = ofText s ++ ofText t :=
  List.map_append

/-- A text has nothing to fill. -/
@[simp] lemma fill_ofText (s : Text) : fill ins (ofText s : Draft α) = s := by
  induction s with
  | nil => rfl
  | cons c s ih => exact congrArg (c :: ·) ih

/-- An empty draft has no gaps. -/
@[simp] lemma gaps_nil : gaps ([] : Draft α) = [] := rfl

/-- A character is no gap. -/
@[simp] lemma gaps_cons_char (c : Char) (d : Draft α) : gaps (.char c :: d) = gaps d := rfl

/-- A gap comes before those that follow it. -/
@[simp] lemma gaps_cons_gap (label : α) (d : Draft α) : gaps (.gap label :: d) = label :: gaps d :=
  rfl

/-- Drafts one after another have their gaps one after another. -/
@[simp] lemma gaps_append (d e : Draft α) : gaps (d ++ e) = gaps d ++ gaps e :=
  List.filterMap_append

/-- A text has no gaps. -/
@[simp] lemma gaps_ofText (s : Text) : gaps (ofText s : Draft α) = [] := by
  induction s with
  | nil => rfl
  | cons c s ih => exact ih

/-- A text has no gaps that could stand in the wrong place. -/
lemma gapsBefore_ofText (s : Text) : GapsBefore marks (ofText s : Draft α) := by
  induction s with
  | nil => trivial
  | cons c s ih => exact ih

/-- What follows a draft does not come between its gaps and their marks. -/
lemma GapsBefore.append (hd : GapsBefore marks d) (he : GapsBefore marks e) :
    GapsBefore marks (d ++ e) := by
  induction d with
  | nil => exact he
  | cons g d ih =>
    cases g with
    | char c => exact ih hd
    | gap label =>
      obtain ⟨⟨mark, hmark, hprefix⟩, hd⟩ := hd
      exact ⟨⟨mark, hmark, hprefix.trans (List.prefix_append ..)⟩, ih hd⟩

/-- A draft is empty if its text is, as there is a mark after every gap. -/
lemma GapsBefore.isEmpty_fill (hd : GapsBefore marks d) (hmarks : ∀ mark ∈ marks, mark ≠ []) :
    (d.fill ins).isEmpty = d.isEmpty := by
  cases d with
  | nil => rfl
  | cons g d =>
    cases g with
    | char c => rfl
    | gap label =>
      obtain ⟨⟨mark, hmark, e, rfl⟩, -⟩ := hd
      simp [hmarks mark hmark]

/-! ### Joining lines -/

/-- Joins lines by line feeds. -/
def unlines (ls : List (Draft α)) : Draft α := [.char '\n'].intercalate ls

/-- Joining lines puts a line feed after every line but the last one. -/
lemma unlines_cons_cons (l l' : Draft α) (ls : List (Draft α)) :
    unlines (l :: l' :: ls) = l ++ .char '\n' :: unlines (l' :: ls) := by
  simp [unlines, List.intercalate, List.intersperse]

/-- A single line stays as it is. -/
lemma unlines_singleton (l : Draft α) : unlines [l] = l := by
  simp [unlines, List.intercalate]

/-- Filled lines join to the filled draft. -/
lemma fill_unlines (ls : List (Draft α)) :
    (unlines ls).fill ins = Text.unlines (ls.map (fill ins)) := by
  induction ls with
  | nil => rfl
  | cons l ls ih =>
    cases ls with
    | nil => simp [unlines_singleton, Text.unlines, List.intercalate]
    | cons l' ls =>
      rw [unlines_cons_cons, fill_append, fill_cons_char, ih, List.map_cons, List.map_cons,
        List.map_cons, Text.unlines_cons_cons]

/-- The gaps of joined lines are those of the lines. -/
lemma gaps_unlines (ls : List (Draft α)) : (unlines ls).gaps = ls.flatMap gaps := by
  induction ls with
  | nil => rfl
  | cons l ls ih =>
    cases ls with
    | nil => simp [unlines_singleton]
    | cons l' ls =>
      rw [unlines_cons_cons, gaps_append, List.flatMap_cons, ← ih]
      rfl

/-- Line feeds between lines do not come between gaps and their marks. -/
lemma gapsBefore_unlines {ls : List (Draft α)} (h : ∀ l ∈ ls, GapsBefore marks l) :
    GapsBefore marks (unlines ls) := by
  induction ls with
  | nil => trivial
  | cons l ls ih =>
    cases ls with
    | nil => simpa [unlines_singleton] using h
    | cons l' ls =>
      rw [unlines_cons_cons]
      exact (h l (by simp)).append (ih fun k hk => h k (List.mem_cons_of_mem _ hk))

/-! ### Blank lines -/

/-- Marks that keep a line from being dropped: not blank, and on one line. -/
def Visible (marks : List Text) : Prop := ∀ mark ∈ marks, mark.blank = false ∧ '\n' ∉ mark

/-- Whether a line is blank does not depend on what is put into its gaps, as a mark follows each
of them. -/
lemma GapsBefore.blank_fill (h : GapsBefore marks d) (hmarks : ∀ mark ∈ marks, mark.blank = false) :
    (d.fill ins).blank = (d.fill []).blank := by
  induction d with
  | nil => rfl
  | cons g d ih =>
    cases g with
    | char c => exact congrArg (Text.isBlank c && ·) (ih h)
    | gap label =>
      obtain ⟨⟨mark, hmark, e, rfl⟩, -⟩ := h
      have hblank := hmarks mark hmark
      simp only [Text.blank] at hblank
      simp [Text.blank, hblank]

/-- A line with a gap is not blank. -/
lemma GapsBefore.gaps_eq_nil (h : GapsBefore marks d) (hmarks : ∀ mark ∈ marks, mark.blank = false)
    (hblank : (d.fill []).blank = true) : d.gaps = [] := by
  induction d with
  | nil => rfl
  | cons g d ih =>
    cases g with
    | char c =>
      simp only [fill_cons_char, Text.blank, List.all_cons, Bool.and_eq_true] at hblank
      exact ih h hblank.2
    | gap label =>
      obtain ⟨⟨mark, hmark, e, rfl⟩, -⟩ := h
      have hnot := hmarks mark hmark
      simp only [Text.blank] at hnot
      simp [Text.blank, hnot] at hblank

/-! ### Lines -/

section Lines

variable [DecidableEq α]

/-- The lines of a draft. -/
def lines (d : Draft α) : List (Draft α) := d.splitOn (.char '\n')

/-- Every line with content, after `n` spaces; blank lines are dropped. -/
def indent (n : Nat) (d : Draft α) : Draft α :=
  unlines ((d.lines.filter fun l => !(l.fill []).blank).map fun l =>
    ofText (List.replicate n ' ') ++ l)

/-- A glyph that is no line feed belongs to the first line. -/
lemma lines_cons_of_ne {g : Glyph α} (hg : g ≠ .char '\n') (d : Draft α) :
    lines (g :: d) = d.lines.modifyHead (g :: ·) := by
  simp [lines, List.splitOn_cons_eq_if_modifyHead, hg]

/-- A line feed ends the first line. -/
lemma lines_cons_newline (d : Draft α) : lines (.char '\n' :: d) = [] :: d.lines := by
  simp [lines, List.splitOn_cons_eq_if_modifyHead]

/-- There is a first line. -/
lemma exists_lines_eq_cons (d : Draft α) : ∃ l ls, d.lines = l :: ls :=
  List.exists_cons_of_ne_nil (List.splitOn_ne_nil _ _)

/-- The lines of a draft join to it. -/
lemma unlines_lines (d : Draft α) : unlines d.lines = d := List.intercalate_splitOn _

/-- **The lines of a filled draft are its filled lines**, if there is no line feed in what it is
filled with. -/
lemma lines_fill (hins : '\n' ∉ ins) (d : Draft α) :
    (d.fill ins).lines = d.lines.map (fill ins) := by
  induction d with
  | nil => rfl
  | cons g d ih =>
    obtain ⟨l, ls, hl⟩ := exists_lines_eq_cons d
    rw [hl, List.map_cons] at ih
    cases g with
    | char c =>
      by_cases hc : c = '\n'
      · subst hc
        rw [fill_cons_char, lines_cons_newline, Text.lines, if_pos rfl, ih, hl]
        rfl
      · rw [fill_cons_char, lines_cons_of_ne (by simpa using hc), hl,
          Text.lines_cons_of_ne hc ih]
        rfl
    | gap label =>
      rw [fill_cons_gap, lines_cons_of_ne (by simp), hl, Text.lines_append_of_notMem hins ih]
      rfl

/-- A text without line feeds at the start of a draft is at the start of its first line. -/
lemma prefix_head_lines {s : Text} (hs : '\n' ∉ s) {l : Draft α} {ls : List (Draft α)}
    (h : ofText s <+: d) (hl : d.lines = l :: ls) : ofText s <+: l := by
  induction s generalizing d l with
  | nil => exact List.nil_prefix
  | cons c s ih =>
    obtain ⟨hc, hs⟩ := List.ne_and_not_mem_of_not_mem_cons hs
    obtain ⟨e, rfl⟩ := h
    obtain ⟨k, ks, hk⟩ := exists_lines_eq_cons (ofText s ++ e)
    have hne : (Glyph.char c : Glyph α) ≠ .char '\n' := by simpa using hc.symm
    have hlines : lines (ofText (c :: s) ++ e) = (.char c :: k) :: ks := by
      show lines (.char c :: (ofText s ++ e)) = _
      rw [lines_cons_of_ne hne, hk]
      rfl
    obtain ⟨rfl, rfl⟩ : .char c :: k = l ∧ ks = ls := by simpa [hlines] using hl
    exact (List.prefix_cons_inj _).2 (ih hs (List.prefix_append ..) hk)

/-- **A gap and its mark are on the same line.** -/
lemma GapsBefore.lines (h : GapsBefore marks d) (hmarks : ∀ mark ∈ marks, '\n' ∉ mark) :
    ∀ l ∈ d.lines, GapsBefore marks l := by
  induction d with
  | nil =>
    intro l hl
    obtain rfl : l = [] := by simpa [Draft.lines] using hl
    trivial
  | cons g d ih =>
    obtain ⟨k, ks, hk⟩ := exists_lines_eq_cons d
    cases g with
    | char c =>
      have hd := ih h
      by_cases hc : c = '\n'
      · subst hc
        rw [lines_cons_newline]
        exact List.forall_mem_cons.2 ⟨trivial, hd⟩
      · rw [lines_cons_of_ne (by simpa using hc), hk]
        rw [hk, List.forall_mem_cons] at hd
        exact List.forall_mem_cons.2 hd
    | gap label =>
      obtain ⟨⟨mark, hmark, hprefix⟩, h⟩ := h
      have hd := ih h
      rw [lines_cons_of_ne (by simp), hk]
      rw [hk, List.forall_mem_cons] at hd
      have hhead := prefix_head_lines (hmarks mark hmark) hprefix hk
      exact List.forall_mem_cons.2 ⟨⟨⟨mark, hmark, hhead⟩, hd.1⟩, hd.2⟩

/-! ### Indentation -/

/-- **Indenting and filling commute.** -/
lemma fill_indent (n : Nat) (hins : '\n' ∉ ins) (h : GapsBefore marks d) (hmarks : Visible marks) :
    (d.indent n).fill ins = Text.indent n (d.fill ins) := by
  have hblank : ∀ l ∈ d.lines, (!(l.fill ins).blank) = !(l.fill []).blank := by
    intro l hl
    have hl := h.lines (fun mark hmark => (hmarks mark hmark).2) l hl
    rw [hl.blank_fill fun mark hmark => (hmarks mark hmark).1]
  rw [Text.indent, lines_fill hins, List.filter_map, indent, fill_unlines, List.map_map,
    List.map_map]
  congr 1
  have hfilter : d.lines.filter ((fun l => !l.blank) ∘ fill ins) =
      d.lines.filter fun l => !(l.fill []).blank :=
    List.filter_congr hblank
  rw [hfilter]
  refine List.map_congr_left fun l _ => ?_
  simp

/-- **No gap is lost by indenting.** -/
lemma gaps_indent (n : Nat) (h : GapsBefore marks d) (hmarks : Visible marks) :
    (d.indent n).gaps = d.gaps := by
  have hlines : ∀ ls : List (Draft α), (∀ l ∈ ls, GapsBefore marks l) →
      ((ls.filter fun l => !(l.fill []).blank).map fun l =>
        ofText (List.replicate n ' ') ++ l).flatMap gaps = ls.flatMap gaps := by
    intro ls hls
    induction ls with
    | nil => rfl
    | cons l ls ih =>
      rw [List.forall_mem_cons] at hls
      have hrest := ih hls.2
      cases hblank : (l.fill []).blank with
      | true =>
        have hnone := hls.1.gaps_eq_nil (fun mark hmark => (hmarks mark hmark).1) hblank
        simp only [List.filter_cons, hblank, Bool.not_true, Bool.false_eq_true, if_false, hrest,
          List.flatMap_cons, hnone, List.nil_append]
      | false =>
        simp only [List.filter_cons, hblank, Bool.not_false, if_true, List.map_cons,
          List.flatMap_cons, hrest, gaps_append, gaps_ofText, List.nil_append]
  rw [indent, gaps_unlines, hlines _ (h.lines fun mark hmark => (hmarks mark hmark).2),
    ← gaps_unlines, unlines_lines]

/-- Indenting leaves gaps before their marks. -/
lemma GapsBefore.indent (n : Nat) (h : GapsBefore marks d) (hmarks : Visible marks) :
    GapsBefore marks (d.indent n) := by
  refine gapsBefore_unlines fun l hl => ?_
  obtain ⟨k, hk, rfl⟩ := List.mem_map.1 hl
  have hline := h.lines (fun mark hmark => (hmarks mark hmark).2) k (List.mem_filter.1 hk).1
  exact (gapsBefore_ofText _).append hline

end Lines

end Draft

end OneFile
