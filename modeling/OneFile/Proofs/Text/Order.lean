import OneFile.Proofs.Text.Boundary

/-!
# Spans in order

Stretches of a source that follow each other without overlaps, possibly with gaps between them.

## Main definitions

* `OneFile.Span.InOrder` — spans that follow each other within an outer span.

## Main results

* `OneFile.Span.InOrder.append` — spans within neighbouring stretches are in order together.
* `OneFile.Span.InOrder.shift` — order within a stretch is order within the source.
* `OneFile.Span.InOrder.increasing` — spans in order start further and further to the right.
-/

namespace OneFile.Span

/-- **Spans in order** within an outer span: none of them is empty, each one lies on character
boundaries of the source and within the outer span, and each one ends before the later ones. -/
structure InOrder (source : Text) (outer : Span) (spans : List Span) : Prop where
  names : ∀ s ∈ spans, s.Names source (s.slice source)
  nonempty : ∀ s ∈ spans, s.start < s.stop
  within : ∀ s ∈ spans, outer.start ≤ s.start ∧ s.stop ≤ outer.stop
  apart : spans.Pairwise fun s t => s.stop ≤ t.start

variable {source : Text} {outer : Span} {spans spans' : List Span}

/-- No spans are in order within any span. -/
lemma InOrder.nil (source : Text) (outer : Span) : InOrder source outer [] :=
  ⟨by simp, by simp, by simp, .nil⟩

/-- The span of a whole text, if the text is not empty, is in order within it. -/
lemma InOrder.whole {code : Text} (hne : code ≠ []) :
    InOrder code ⟨0, code.size⟩ [⟨0, code.size⟩] where
  names s hs := by
    have hnames : Names code ⟨0, code.size⟩ code := names_iff.2 ⟨[], [], by simp, by simp⟩
    rwa [List.mem_singleton.1 hs, hnames.slice_eq]
  nonempty := by simpa using Text.size_pos hne
  within := by simp
  apart := List.pairwise_singleton _ _

/-- Spans in order are in order within a larger span. -/
lemma InOrder.widen {wider : Span} (h : InOrder source outer spans)
    (hstart : wider.start ≤ outer.start) (hstop : outer.stop ≤ wider.stop) :
    InOrder source wider spans where
  names := h.names
  nonempty := h.nonempty
  within s hs := ⟨Nat.le_trans hstart (h.within s hs).1, Nat.le_trans (h.within s hs).2 hstop⟩
  apart := h.apart

/-- Spans in order are in order when some of them are left out. -/
lemma InOrder.sublist (h : InOrder source outer spans) (hsub : spans'.Sublist spans) :
    InOrder source outer spans' where
  names s hs := h.names s (hsub.subset hs)
  nonempty s hs := h.nonempty s (hsub.subset hs)
  within s hs := h.within s (hsub.subset hs)
  apart := h.apart.sublist hsub

/-- **Spans within neighbouring stretches are in order together.** -/
lemma InOrder.append {start mid stop : Nat} (h : InOrder source ⟨start, mid⟩ spans)
    (h' : InOrder source ⟨mid, stop⟩ spans') (hstart : start ≤ mid) (hstop : mid ≤ stop) :
    InOrder source ⟨start, stop⟩ (spans ++ spans') where
  names s hs := (List.mem_append.1 hs).elim (h.names s) (h'.names s)
  nonempty s hs := (List.mem_append.1 hs).elim (h.nonempty s) (h'.nonempty s)
  within s hs := by
    rcases List.mem_append.1 hs with hs | hs
    · exact ⟨(h.within s hs).1, Nat.le_trans (h.within s hs).2 hstop⟩
    · exact ⟨Nat.le_trans hstart (h'.within s hs).1, (h'.within s hs).2⟩
  apart := by
    refine List.pairwise_append.2 ⟨h.apart, h'.apart, fun s hs t ht => ?_⟩
    exact Nat.le_trans (h.within s hs).2 (h'.within t ht).1

/-- **Order within a stretch is order within the source**, once the spans are moved to where the
stretch starts. -/
lemma InOrder.shift {code : Text} (houter : outer.Names source code)
    (h : InOrder code ⟨0, code.size⟩ spans) :
    InOrder source outer (spans.map (Span.shift outer.start)) where
  names s hs := by
    obtain ⟨t, ht, rfl⟩ := List.mem_map.1 hs
    have hnames := houter.shift (h.names t ht)
    rwa [hnames.slice_eq]
  nonempty s hs := by
    obtain ⟨t, ht, rfl⟩ := List.mem_map.1 hs
    exact Nat.add_lt_add_left (h.nonempty t ht) _
  within s hs := by
    obtain ⟨t, ht, rfl⟩ := List.mem_map.1 hs
    have hstop := (h.within t ht).2
    have heq := houter.stop_eq
    simp only [Span.shift] at hstop ⊢
    omega
  apart := by
    refine List.pairwise_map.2 (h.apart.imp fun {s t} hst => ?_)
    exact Nat.add_le_add_left hst _

/-- **Spans in order start further and further to the right.** -/
lemma InOrder.increasing (h : InOrder source outer spans) :
    spans.Pairwise fun s t => s.start < t.start := by
  refine h.apart.imp_of_mem fun {s t} hs _ hst => ?_
  exact Nat.lt_of_lt_of_le (h.nonempty s hs) hst

end OneFile.Span
