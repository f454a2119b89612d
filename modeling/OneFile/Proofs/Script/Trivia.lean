import OneFile.Proofs.Text.Boundary
import OneFile.Script.Lexer

/-!
# Blanks and comments

What may lie between two tokens of a script without being part of any.

## Main definitions

* `OneFile.Script.Trivia` — blanks and comments.

## Main results

* `OneFile.Script.exists_reads_skipGap` — what is passed over is blanks and comments.
* `OneFile.Script.skipGap_of_blank` — all of a blank text is passed over.

## Design

A comment up to the end of its line is told from code on the same line only by what comes after
it. So blanks and comments are judged together with the text that follows them.
-/

namespace OneFile.Script

open Cursor

/-! ### What separates tokens -/

/-- **Blanks and comments before a text.** A line comment goes on to the end of its line or of all
there is, and a block comment to the first mark that ends it. -/
inductive Trivia (rest : Text) : Text → Prop
  | nil : Trivia rest []
  | blank {c : Char} {s : Text} (hc : isGap c = true ∨ endsLine c = true) (hs : Trivia rest s) :
      Trivia rest (c :: s)
  | lineComment {body s : Text} (hbody : ∀ c ∈ body, endsLine c = false)
      (hend : ∀ c ∈ (s ++ rest).head?, endsLine c = true) (hs : Trivia rest s) :
      Trivia rest ('/' :: '/' :: body ++ s)
  | blockComment {body s : Text} (hbody : ¬ ['*', '/'] <:+: body) (hs : Trivia rest s) :
      Trivia rest ('/' :: '*' :: body ++ '*' :: '/' :: s)

/-- Of the text that follows, only the first character counts. -/
lemma Trivia.congr {rest rest' s : Text} (h : Trivia rest s) (hhead : rest.head? = rest'.head?) :
    Trivia rest' s := by
  induction h with
  | nil => exact .nil
  | blank hc _ ih => exact .blank hc ih
  | @lineComment body s hbody hend _ ih =>
    refine .lineComment hbody (fun c hc => hend c ?_) ih
    cases s with
    | nil => exact hhead ▸ hc
    | cons d s => exact hc
  | blockComment hbody _ ih => exact .blockComment hbody ih

/-- Blanks and comments start with a blank or with the mark of a comment. -/
lemma Trivia.starts {rest s : Text} {c : Char} (h : Trivia rest (c :: s)) :
    isGap c = true ∨ endsLine c = true ∨ c = '/' := by
  cases h with
  | blank hc => exact hc.imp_right .inl
  | lineComment => exact .inr (.inr rfl)
  | blockComment => exact .inr (.inr rfl)

/-- What is passed over from the kind of characters `g` on: blanks and comments, after the rest of
the comment that is open. -/
def Gap.Passes (rest : Text) : Gap → Text → Prop
  | .blank, piece => Trivia rest piece
  | .lineComment, piece => ∃ body s, piece = body ++ s ∧ (∀ c ∈ body, endsLine c = false) ∧
      (∀ c ∈ (s ++ rest).head?, endsLine c = true) ∧ Trivia rest s
  | .blockComment, piece => ∃ body s, piece = body ++ '*' :: '/' :: s ∧
      ¬ ['*', '/'] <:+: body ∧ Trivia rest s

/-! ### Passing over -/

/-- **What is passed over is blanks and comments.**

**Proof sketch.** Induction along the characters. A character within a comment goes to the body of
the comment that is open; it does not complete the mark that ends a block comment, for then the
comment would have been left. -/
lemma exists_reads_skipGap {g : Gap} {ended e : Bool} {o : Nat} {s : Text} {c' : Cursor}
    (h : skipGap g ended o s = some (e, c')) :
    ∃ piece, g.Passes c'.rest piece ∧ Cursor.Reads ⟨s, o⟩ piece c' := by
  fun_induction skipGap g ended o s with
  | case1 ended o s ih =>
    obtain ⟨piece, ⟨body, t, rfl, hbody, hend, ht⟩, hreads⟩ := ih h
    exact ⟨_, .lineComment hbody hend ht,
      (reads_ascii rfl _ o).trans ((reads_ascii rfl s (o + 1)).trans hreads)⟩
  | case2 ended o s ih =>
    obtain ⟨piece, ⟨body, t, rfl, hbody, ht⟩, hreads⟩ := ih h
    exact ⟨_, .blockComment hbody ht,
      (reads_ascii rfl _ o).trans ((reads_ascii rfl s (o + 1)).trans hreads)⟩
  | case3 ended o c s _ _ hc ih =>
    obtain ⟨piece, hpiece, hreads⟩ := ih h
    exact ⟨_, .blank (.inr hc) hpiece, (reads_cons c s o).trans hreads⟩
  | case4 ended o c s _ _ _ hc ih =>
    obtain ⟨piece, hpiece, hreads⟩ := ih h
    exact ⟨_, .blank (.inl hc) hpiece, (reads_cons c s o).trans hreads⟩
  | case5 ended o c s =>
    simp only [Option.some.injEq, Prod.mk.injEq] at h
    obtain ⟨-, rfl⟩ := h
    exact ⟨[], .nil, rfl, rfl⟩
  | case6 ended o c s hc ih =>
    obtain ⟨piece, hpiece, hreads⟩ := ih h
    refine ⟨c :: piece, ⟨[], c :: piece, rfl, by simp, by simpa using hc, .blank (.inr hc) hpiece⟩,
      (reads_cons c s o).trans hreads⟩
  | case7 ended o c s hc ih =>
    obtain ⟨piece, ⟨body, t, rfl, hbody, hend, ht⟩, hreads⟩ := ih h
    refine ⟨c :: (body ++ t), ⟨c :: body, t, rfl, ?_, hend, ht⟩, (reads_cons c s o).trans hreads⟩
    simpa [hc] using hbody
  | case8 ended o s ih =>
    obtain ⟨piece, hpiece, hreads⟩ := ih h
    exact ⟨_, ⟨[], piece, rfl, by simp, hpiece⟩,
      (reads_ascii rfl _ o).trans ((reads_ascii rfl s (o + 1)).trans hreads)⟩
  | case9 ended o c s hmark ih =>
    obtain ⟨piece, ⟨body, t, rfl, hbody, ht⟩, hreads⟩ := ih h
    refine ⟨c :: (body ++ '*' :: '/' :: t), ⟨c :: body, t, rfl, ?_, ht⟩,
      (reads_cons c s o).trans hreads⟩
    rw [List.infix_cons_iff, not_or]
    refine ⟨fun hprefix => ?_, hbody⟩
    obtain ⟨hc, hbody'⟩ := List.cons_prefix_cons.1 hprefix
    obtain ⟨u, rfl⟩ := hbody'
    have hs : s = '/' :: (u ++ '*' :: '/' :: t ++ c'.rest) := by simpa using hreads.rest_eq
    exact hmark _ hc.symm hs
  | case10 => simp at h
  | case11 g ended o hg =>
    simp only [Option.some.injEq, Prod.mk.injEq] at h
    obtain ⟨-, rfl⟩ := h
    refine ⟨[], ?_, rfl, rfl⟩
    cases g with
    | blank => exact .nil
    | lineComment => exact ⟨[], [], rfl, by simp, by simp, .nil⟩
    | blockComment => exact absurd rfl hg

/-! ### Blank texts -/

/-- A blank character is one between tokens. -/
lemma isGap_or_endsLine_of_isBlank {c : Char} (h : Text.isBlank c = true) :
    isGap c = true ∨ endsLine c = true := by
  have hchar : ∀ d : Char, c = d ↔ c.toNat = d.toNat := fun d => Char.toNat_inj.symm
  have hends : '\n'.toNat = 10 ∧ '\r'.toNat = 13 ∧ '\u2028'.toNat = 0x2028 ∧
      '\u2029'.toNat = 0x2029 := by decide
  obtain ⟨hfeed, hreturn, hline, hparagraph⟩ := hends
  simp only [Text.isBlank, isGap, endsLine, Bool.or_eq_true, Bool.and_eq_true, beq_iff_eq,
    decide_eq_true_eq, hchar, hfeed, hreturn, hline, hparagraph] at h ⊢
  omega

/-- A blank text is nothing but blanks. -/
lemma trivia_of_blank {s : Text} (h : s.blank = true) (rest : Text) : Trivia rest s := by
  induction s with
  | nil => exact .nil
  | cons c s ih =>
    simp only [Text.blank, List.all_cons, Bool.and_eq_true] at h
    exact .blank (isGap_or_endsLine_of_isBlank h.1) (ih h.2)

/-- **All of a blank text is passed over.** -/
lemma skipGap_of_blank {s : Text} (h : s.blank = true) (ended : Bool) (o : Nat) :
    ∃ ended' o', skipGap .blank ended o s = some (ended', ⟨[], o'⟩) := by
  induction s generalizing ended o with
  | nil => exact ⟨ended, o, rfl⟩
  | cons c s ih =>
    simp only [Text.blank, List.all_cons, Bool.and_eq_true] at h
    obtain ⟨hc, hs⟩ := h
    have hslash : c ≠ '/' := by
      rintro rfl
      exact absurd hc (by decide)
    rw [skipGap]
    · split_ifs with hline hgap
      · exact ih hs _ _
      · exact ih hs _ _
      · exact absurd (isGap_or_endsLine_of_isBlank hc) (by simp [hline, hgap])
    · exact fun _ hmark _ => hslash hmark
    · exact fun _ hmark _ => hslash hmark

end OneFile.Script
