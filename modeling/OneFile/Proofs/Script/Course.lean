import OneFile.Proofs.Script.Lexing

/-!
# The course of reading

Reading goes from token to token and never back, whatever the grammar makes of the tokens.

## Main definitions

* `OneFile.Script.State.Stands` — a place among the tokens of a source.
* `OneFile.Script.State.Passes` — going on from one place to another with a token read in between.

## Main results

* `OneFile.Script.State.Stands.leads` — reading stays in the source.
* `OneFile.Script.State.Stands.le_of_leads` — reading does not go back.
* `OneFile.Script.State.Stands.lt_of_passes` — what is read is not empty.

## Design

Rules of the grammar can reach other places by steps only (`OneFile.Script.State.Leads`), so what
one step keeps holds after all of them, and no rule has to be looked at for it.
-/

namespace OneFile.Script.State

open Cursor

variable {source : Text} {st st' st'' : State}

/-! ### Places in a source -/

/-- **A place stands in a source**: its token follows, after blanks and comments only, what was read
before it. -/
def Stands (source : Text) (st : State) : Prop :=
  ∃ c : Cursor, c.In source ∧ c.offset = st.lastStop ∧ Follows c (st.current, st.after)

/-- The token that a token is taken for is cut off at the same place. -/
lemma cutsAt_retake {start : Cursor} (r : Retake) (h : CutsAt start (st.current, st.after)) :
    CutsAt start ((st.retake r).current, (st.retake r).after) := by
  obtain ⟨token, hreads, hspan, hspells, hends⟩ := h
  have hkept : CutsAt start (st.current, st.after) := ⟨token, hreads, hspan, hspells, hends⟩
  simp only at hreads hspan hspells
  have hstart : st.current.span.start = start.offset := by rw [hspan]
  -- a mark of two characters, of which the second one is given back
  have hfirst : ∀ {a b : Char}, token = [a, b] → a.utf8Size = 1 → b.utf8Size = 1 →
      start.Reads [a] ⟨b :: st.after.rest, st.after.offset - 1⟩ := by
    rintro a b rfl ha hb
    exact ⟨by simp [hreads.rest_eq], by simp [hreads.offset_eq, ha, hb]⟩
  unfold retake
  dsimp only
  rw [hstart]
  split
  · rename_i htoken
    rw [htoken] at hspells
    exact cutsAt_lexTagName hreads hspells
  · rename_i htoken
    rw [htoken] at hspells
    exact cutsAt_lexeme (hfirst hspells rfl rfl) rfl nofun
  · rename_i htoken
    rw [htoken] at hspells
    obtain rfl : token = ['>'] := hspells
    exact cutsAt_lexGreater hreads
  · rename_i htoken
    rw [htoken] at hspells
    exact cutsAt_lexRegex hreads (hspells.ne_nil nofun)
  · rename_i htoken
    rw [htoken] at hspells
    exact cutsAt_lexRegex (hfirst hspells rfl rfl) (List.cons_ne_nil _ _)
  · rename_i htoken
    rw [htoken] at hspells
    exact cutsAt_lexTemplate hreads (hspells.ne_nil nofun)
  · exact hkept

/-- One step of reading stays in the source. -/
lemma Stands.step (h : st.Stands source) (hstep : st.Step st') : st'.Stands source := by
  obtain ⟨c, hin, hoffset, gap, start, hgap, hreads, hcut⟩ := h
  cases hstep with
  | advance region =>
    obtain ⟨token, htoken⟩ := hcut
    refine ⟨st.after, (hin.of_reads hreads).of_reads htoken.reads, ?_, region.lex_follows _⟩
    exact (congrArg Span.stop htoken.span_eq).symm
  | retake r => exact ⟨c, hin, hoffset, gap, start, hgap, hreads, cutsAt_retake r hcut⟩
  | noted flawed defaults => exact ⟨c, hin, hoffset, gap, start, hgap, hreads, hcut⟩

/-- **Reading stays in the source.** -/
lemma Stands.leads (h : st.Stands source) (hleads : st.Leads st') : st'.Stands source := by
  induction hleads with
  | refl => exact h
  | tail _ hstep ih => exact ih.step hstep

/-! ### Reading does not go back -/

/-- A token starts where the one before it ends, or later. -/
lemma Stands.lastStop_le (h : st.Stands source) : st.lastStop ≤ st.current.span.start := by
  obtain ⟨c, -, hoffset, gap, start, -, hreads, token, hcut⟩ := h
  have hspan : st.current.span = _ := hcut.span_eq
  rw [hspan, ← hoffset, hreads.offset_eq]
  exact Nat.le_add_right ..

/-- A token does not end before its start. -/
lemma Stands.start_le_stop (h : st.Stands source) :
    st.current.span.start ≤ st.current.span.stop := by
  obtain ⟨c, -, -, gap, start, -, -, token, hcut⟩ := h
  have hspan : st.current.span = _ := hcut.span_eq
  have hoffset : st.after.offset = _ := hcut.reads.offset_eq
  rw [hspan, hoffset]
  exact Nat.le_add_right ..

/-- A token is not empty, except at the end. -/
lemma Stands.start_lt_stop (h : st.Stands source) (hend : st.current.token ≠ .endOfInput) :
    st.current.span.start < st.current.span.stop := by
  obtain ⟨c, -, -, gap, start, -, -, token, hcut⟩ := h
  have hspan : st.current.span = _ := hcut.span_eq
  have hoffset : st.after.offset = _ := hcut.reads.offset_eq
  have hpos : 0 < token.size := Text.size_pos (hcut.spells.ne_nil hend)
  rw [hspan, hoffset]
  exact Nat.lt_add_of_pos_right hpos

/-- A token that is taken for another one starts where it did. -/
lemma Stands.start_retake (h : st.Stands source) (r : Retake) :
    (st.retake r).current.span.start = st.current.span.start := by
  obtain ⟨c, -, -, gap, start, -, -, hcut⟩ := h
  obtain ⟨token', hcut'⟩ := cutsAt_retake r hcut
  obtain ⟨token, hcut⟩ := hcut
  have hspan : st.current.span = _ := hcut.span_eq
  have hspan' : (st.retake r).current.span = _ := hcut'.span_eq
  rw [hspan, hspan']

/-- One step of reading does not go back. -/
lemma Stands.le_of_step (h : st.Stands source) (hstep : st.Step st') :
    st.lastStop ≤ st'.lastStop ∧ st.current.span.start ≤ st'.current.span.start := by
  have h' := h.step hstep
  cases hstep with
  | advance region =>
    have hlast : (st.advance region).lastStop = st.current.span.stop := rfl
    exact ⟨hlast ▸ Nat.le_trans h.lastStop_le h.start_le_stop,
      Nat.le_trans h.start_le_stop h'.lastStop_le⟩
  | retake r => exact ⟨Nat.le_refl _, Nat.le_of_eq (h.start_retake r).symm⟩
  | noted flawed defaults => exact ⟨Nat.le_refl _, Nat.le_refl _⟩

/-- **Reading does not go back**, neither behind what has been read nor behind the present token. -/
lemma Stands.le_of_leads (h : st.Stands source) (hleads : st.Leads st') :
    st.lastStop ≤ st'.lastStop ∧ st.current.span.start ≤ st'.current.span.start := by
  induction hleads with
  | refl => exact ⟨Nat.le_refl _, Nat.le_refl _⟩
  | tail hleads hstep ih =>
    obtain ⟨hlast, hstart⟩ := (h.leads hleads).le_of_step hstep
    exact ⟨Nat.le_trans ih.1 hlast, Nat.le_trans ih.2 hstart⟩

/-! ### Reading a token -/

/-- **A token is read** on the way from one place to another: one that is not the end. -/
def Passes (st st' : State) : Prop :=
  ∃ (mid : State) (region : Region), st.Leads mid ∧ mid.current.token ≠ .endOfInput ∧
    (mid.advance region).Leads st'

/-- Reading a token is reading one. -/
lemma passes_advance (region : Region) (hend : st.current.token ≠ .endOfInput) :
    st.Passes (st.advance region) := ⟨st, region, .refl, hend, .refl⟩

/-- A token that is read further on is read. -/
lemma Passes.of_leads (hleads : st.Leads st') (h : st'.Passes st'') : st.Passes st'' := by
  obtain ⟨mid, region, hmid, hend, hlast⟩ := h
  exact ⟨mid, region, hleads.trans hmid, hend, hlast⟩

/-- A token that has been read is read, wherever one goes from there. -/
lemma Passes.leads_trans (h : st.Passes st') (hleads : st'.Leads st'') : st.Passes st'' := by
  obtain ⟨mid, region, hmid, hend, hlast⟩ := h
  exact ⟨mid, region, hmid, hend, hlast.trans hleads⟩

/-- What reads a token leads on. -/
lemma Passes.leads (h : st.Passes st') : st.Leads st' := by
  obtain ⟨mid, region, hmid, -, hlast⟩ := h
  exact (hmid.tail (.advance region)).trans hlast

/-- **What is read is not empty**, from the token at the start up to the last one that is read. -/
lemma Stands.lt_of_passes (h : st.Stands source) (hpasses : st.Passes st') :
    st.current.span.start < st'.lastStop := by
  obtain ⟨mid, region, hmid, hend, hlast⟩ := hpasses
  have hstands := h.leads hmid
  have hstands' := hstands.step (.advance region)
  calc st.current.span.start
      ≤ mid.current.span.start := (h.le_of_leads hmid).2
    _ < mid.current.span.stop := hstands.start_lt_stop hend
    _ = (mid.advance region).lastStop := rfl
    _ ≤ st'.lastStop := (hstands'.le_of_leads hlast).1

end OneFile.Script.State
