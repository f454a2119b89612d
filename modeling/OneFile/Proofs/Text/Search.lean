import Mathlib.Data.List.Infix
import OneFile.Text.Basic

/-!
# Searching in texts

Where a pattern is found in a text, where a run of characters ends, and what becomes of both when
more text follows.

## Main definitions

* `OneFile.Text.upTo` — the characters up to a place that is recognised by what follows it.

## Main results

* `OneFile.Text.breakOn_append` — a pattern is found where it was put.
* `OneFile.Text.not_infix_of_breakOn` — what precedes the pattern that is found does not hold it.
* `OneFile.Text.breakOn_extend`, `OneFile.Text.breakOn_of_extend` — what is found before the end of
  a text is found there whatever follows.
* `OneFile.Text.upTo_extend`, `OneFile.Text.upTo_of_extend` — so is the end of a run.
-/

namespace OneFile.Text

variable {s : Text}

/-! ### Patterns -/

/-- **A pattern is found where it was put**, if its first character occurs nowhere else in it and
the text before it does not hold it.

**Proof sketch.** Induction on the text before. An earlier occurrence would either lie in that
text, or reach into the pattern; then the first character of the pattern would occur in it
again. -/
lemma breakOn_append {c : Char} {cs before : Text} (after : Text) (hfirst : c ∉ cs)
    (hbefore : ¬ (c :: cs) <:+: before) :
    breakOn (c :: cs) (before ++ c :: (cs ++ after)) = some (before, after) := by
  induction before with
  | nil =>
    have hstart : c :: cs <+: c :: (cs ++ after) := List.prefix_append (c :: cs) after
    rw [List.nil_append, breakOn, if_pos hstart, List.length_cons, List.drop_succ_cons,
      List.drop_left]
  | cons d before ih =>
    have hstart : ¬ c :: cs <+: d :: (before ++ c :: (cs ++ after)) := by
      rintro ⟨t, ht⟩
      simp only [List.cons_append, List.cons.injEq] at ht
      obtain ⟨rfl, ht⟩ := ht
      rcases List.append_eq_append_iff.1 ht.symm with ⟨m, hcs, hm⟩ | ⟨m, hb, -⟩
      · cases m with
        | nil =>
          apply hbefore
          rw [hcs, List.append_nil]
        | cons e m =>
          obtain rfl : c = e := by simpa using congrArg List.head? hm
          exact hfirst (by simp [hcs])
      · exact hbefore ⟨[], m, by simp [hb]⟩
    have hrest := ih fun h => hbefore (List.infix_cons h)
    rw [List.cons_append, breakOn, if_neg hstart, hrest]
    rfl

/-- **What precedes the first occurrence of a pattern does not hold it.** -/
lemma not_infix_of_breakOn {pattern before after : Text} (hne : pattern ≠ [])
    (h : breakOn pattern s = some (before, after)) : ¬ pattern <:+: before := by
  induction s generalizing before with
  | nil =>
    simp only [breakOn] at h
    split at h
    · rename_i hempty
      exact absurd (List.isEmpty_iff.1 hempty) hne
    · simp at h
  | cons c s ih =>
    simp only [breakOn] at h
    split at h
    · simp only [Option.some.injEq, Prod.mk.injEq] at h
      simpa [← h.1] using hne
    · rename_i hstart
      obtain ⟨⟨b, a⟩, hfound, heq⟩ := Option.map_eq_some_iff.1 h
      simp only [Prod.mk.injEq] at heq
      obtain ⟨rfl, rfl⟩ := heq
      rw [List.infix_cons_iff]
      rintro (hinitial | hinfix)
      · -- the pattern would have been found at the start already
        apply hstart
        rw [breakOn_eq_some hfound, List.append_assoc, ← List.cons_append]
        exact hinitial.trans (List.prefix_append ..)
      · exact ih hfound hinfix

/-- A pattern that is not found does not occur. -/
lemma not_infix_of_breakOn_eq_none {pattern : Text} (h : breakOn pattern s = none) :
    ¬ pattern <:+: s := by
  induction s with
  | nil =>
    rw [breakOn] at h
    split_ifs at h with hempty
    rw [List.infix_nil]
    exact fun hnil => hempty (List.isEmpty_iff.2 hnil)
  | cons c s ih =>
    rw [breakOn] at h
    split at h
    · cases h
    · rename_i hstart
      rw [List.infix_cons_iff]
      rintro (hinitial | hinfix)
      · exact hstart hinitial
      · exact ih (Option.map_eq_none_iff.1 h) hinfix

/-- **What is found stays found**: the first occurrence of a pattern is still the first one when
more text follows. -/
lemma breakOn_extend {pattern before after : Text} (t : Text)
    (h : breakOn pattern s = some (before, after)) :
    breakOn pattern (s ++ t) = some (before, after ++ t) := by
  induction s generalizing before with
  | nil =>
    simp only [breakOn] at h
    split at h
    · rename_i hempty
      obtain rfl := List.isEmpty_iff.1 hempty
      simp only [Option.some.injEq, Prod.mk.injEq] at h
      obtain ⟨rfl, rfl⟩ := h
      cases t <;> rfl
    · simp at h
  | cons c s ih =>
    -- the pattern lies within `c :: s`, so `t` has no part in whether it starts at `c`
    have hle : pattern.length ≤ (c :: s).length := by
      rw [breakOn_eq_some h]
      simp only [List.length_append]
      omega
    have hstarts : pattern <+: c :: s ++ t ↔ pattern <+: c :: s :=
      List.isPrefix_append_of_length hle
    rw [List.cons_append] at hstarts ⊢
    rw [breakOn] at h ⊢
    split at h
    · rename_i hstart
      simp only [Option.some.injEq, Prod.mk.injEq] at h
      obtain ⟨rfl, rfl⟩ := h
      rw [if_pos (hstarts.2 hstart), ← List.cons_append, List.drop_append_of_le_length hle]
    · rename_i hstart
      obtain ⟨⟨b, a⟩, hfound, heq⟩ := Option.map_eq_some_iff.1 h
      simp only [Prod.mk.injEq] at heq
      obtain ⟨rfl, rfl⟩ := heq
      rw [if_neg (mt hstarts.1 hstart), ih hfound]
      rfl

/-- **What is found before the end of a text does not depend on what follows**: without it, the
same occurrence is the first one. -/
lemma breakOn_of_extend {pattern before after t : Text}
    (h : breakOn pattern (s ++ t) = some (before, after ++ t)) :
    breakOn pattern s = some (before, after) := by
  induction s generalizing before with
  | nil =>
    have hlength := congrArg List.length (breakOn_eq_some h)
    simp only [List.nil_append, List.length_append] at hlength
    obtain rfl : pattern = [] := List.length_eq_zero_iff.1 (by omega)
    obtain rfl : before = [] := List.length_eq_zero_iff.1 (by omega)
    obtain rfl : after = [] := List.length_eq_zero_iff.1 (by omega)
    rfl
  | cons c s ih =>
    rw [List.cons_append, breakOn] at h
    rw [breakOn]
    split at h
    · rename_i hstart
      simp only [Option.some.injEq, Prod.mk.injEq] at h
      obtain ⟨rfl, hafter⟩ := h
      have heq : c :: s = pattern ++ after := by
        have hall := List.prefix_iff_eq_append.1 hstart
        rw [hafter, ← List.append_assoc, ← List.cons_append] at hall
        exact (List.append_cancel_right hall).symm
      rw [heq, if_pos (List.prefix_append ..), List.drop_left]
    · rename_i hstart
      obtain ⟨⟨b, a⟩, hfound, heq⟩ := Option.map_eq_some_iff.1 h
      simp only [Prod.mk.injEq] at heq
      obtain ⟨rfl, rfl⟩ := heq
      have hstart' : ¬ pattern <+: c :: s := fun hinitial =>
        hstart (hinitial.trans (List.prefix_append (c :: s) t))
      rw [if_neg hstart', ih hfound]
      rfl

/-! ### Runs of characters -/

/-- A run of characters ends before the first other one. -/
lemma takeWhile_append_of_stop {p : Char → Bool} {s t : Text} (hs : ∀ c ∈ s, p c = true)
    (ht : t.head?.any p = false) : (s ++ t).takeWhile p = s := by
  rw [List.takeWhile_append_of_pos hs]
  cases t with
  | nil => simp
  | cons c t => simp_all

/-- What follows a run of characters starts with the first other one. -/
lemma dropWhile_append_of_stop {p : Char → Bool} {s t : Text} (hs : ∀ c ∈ s, p c = true)
    (ht : t.head?.any p = false) : (s ++ t).dropWhile p = t := by
  rw [List.dropWhile_append_of_pos hs]
  cases t with
  | nil => rfl
  | cons c t => simp_all

/-- What follows the longest run of characters is another one. -/
lemma eq_false_of_mem_head?_dropWhile {p : Char → Bool} {s : Text} {c : Char}
    (h : c ∈ (s.dropWhile p).head?) : p c = false := by
  have hnot := List.head?_dropWhile_not p s
  rw [Option.mem_def.1 h] at hnot
  exact hnot

/-- The characters up to the first place that `ends` recognises by a character and what follows
it, and what is left from there on. -/
def upTo (ends : Char → Text → Bool) : Text → Text × Text
  | [] => ([], [])
  | c :: s => if ends c s then ([], c :: s) else (c :: (upTo ends s).1, (upTo ends s).2)

/-- **A run that ends before the end of the text stays as it is** when more text follows, if that
does not undo an end and decides nowhere but at the end of the text. -/
lemma upTo_extend {ends : Char → Text → Bool} {t : Text}
    (hlast : ∀ c, ends c [] = true → ends c t = true)
    (hinner : ∀ c d u, ends c (d :: u ++ t) = ends c (d :: u)) (hne : (upTo ends s).2 ≠ []) :
    upTo ends (s ++ t) = ((upTo ends s).1, (upTo ends s).2 ++ t) := by
  induction s with
  | nil => simp [upTo] at hne
  | cons c s ih =>
    simp only [upTo, List.cons_append] at hne ⊢
    cases s with
    | nil =>
      cases hends : ends c [] with
      | false => simp [hends, upTo] at hne
      | true => simp [hlast c hends]
    | cons d s =>
      rw [hinner]
      cases hends : ends c (d :: s) with
      | false =>
        have hrest := ih (by simpa [hends] using hne)
        rw [List.cons_append] at hrest
        simp [hrest]
      | true => simp

/-- A run of characters and what is left after it make up the text. -/
lemma upTo_append (ends : Char → Text → Bool) (s : Text) :
    (upTo ends s).1 ++ (upTo ends s).2 = s := by
  induction s with
  | nil => rfl
  | cons c s ih =>
    simp only [upTo]
    split
    · rfl
    · simp [ih]

/-- **A run that ends before the end of the text does not depend on what follows**, unless it ends
before the last character just because of that. -/
lemma upTo_of_extend {ends : Char → Text → Bool} {t run rest : Text}
    (hlast : ∀ c, ends c [] = true → ends c t = true)
    (hinner : ∀ c d u, ends c (d :: u ++ t) = ends c (d :: u))
    (hstop : ∀ c, rest = [c] → ends c t = true → ends c [] = true)
    (h : upTo ends (s ++ t) = (run, rest ++ t)) : upTo ends s = (run, rest) := by
  induction s generalizing run with
  | nil =>
    have hlength := congrArg List.length (upTo_append ends t)
    rw [List.nil_append] at h
    simp only [h, List.length_append] at hlength
    obtain rfl : run = [] := List.length_eq_zero_iff.1 (by omega)
    obtain rfl : rest = [] := List.length_eq_zero_iff.1 (by omega)
    rfl
  | cons c s ih =>
    have hends : ends c s = ends c (s ++ t) ∨ s = [] := by
      cases s with
      | nil => exact .inr rfl
      | cons d s => exact .inl (hinner c d s).symm
    simp only [upTo, List.cons_append] at h ⊢
    split_ifs at h with hc
    · simp only [Prod.mk.injEq] at h
      obtain ⟨rfl, hrest⟩ := h
      obtain rfl : c :: s = rest := List.append_cancel_right hrest
      have hc' : ends c s = true := by
        rcases hends with heq | rfl
        · rw [heq, hc]
        · exact hstop c rfl hc
      rw [if_pos hc']
    · simp only [Prod.mk.injEq] at h
      obtain ⟨rfl, hrest⟩ := h
      have hc' : ¬ ends c s = true := by
        rcases hends with heq | rfl
        · rwa [heq]
        · exact fun hnil => hc (hlast c hnil)
      rw [if_neg hc', ih (Prod.ext rfl hrest)]

/-- A run of characters that satisfy `p` and that ends before the end of the text stays as it is
when more text follows. -/
lemma takeWhile_extend {p : Char → Bool} (t : Text) (hne : s.dropWhile p ≠ []) :
    (s ++ t).takeWhile p = s.takeWhile p ∧ (s ++ t).dropWhile p = s.dropWhile p ++ t := by
  have hshorter : (s.takeWhile p).length ≠ s.length := by
    have hlength := congrArg List.length (List.takeWhile_append_dropWhile (p := p) (l := s))
    have hpos := List.length_pos_iff.2 hne
    rw [List.length_append] at hlength
    omega
  rw [List.takeWhile_append, if_neg hshorter, List.dropWhile_append, if_neg (by simpa using hne)]
  exact ⟨rfl, rfl⟩

/-- Nor does a run of characters that satisfy `p` depend on what follows, if it ends before that. -/
lemma takeWhile_of_extend {p : Char → Bool} {t rest : Text}
    (h : (s ++ t).dropWhile p = rest ++ t) :
    s.takeWhile p = (s ++ t).takeWhile p ∧ s.dropWhile p = rest := by
  by_cases hne : s.dropWhile p = []
  · rw [List.dropWhile_append, hne, List.isEmpty_nil, if_pos rfl] at h
    have hlength := (List.dropWhile_sublist p (l := t)).length_le
    rw [h, List.length_append] at hlength
    obtain rfl : rest = [] := List.length_eq_zero_iff.1 (by omega)
    rw [List.nil_append] at h
    have hall : s.takeWhile p = s := by
      simpa [hne] using List.takeWhile_append_dropWhile (p := p) (l := s)
    have hnone : t.takeWhile p = [] := by
      simpa [h] using List.takeWhile_append_dropWhile (p := p) (l := t)
    refine ⟨?_, hne⟩
    rw [List.takeWhile_append, hall, if_pos rfl, hnone, List.append_nil]
  · obtain ⟨htake, hdrop⟩ := takeWhile_extend t hne
    rw [hdrop] at h
    exact ⟨htake.symm, List.append_cancel_right h⟩

end OneFile.Text
