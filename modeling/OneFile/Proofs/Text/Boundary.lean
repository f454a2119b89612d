import Mathlib.Tactic.Common
import OneFile.Cursor
import OneFile.Span

/-!
# Character boundaries

Offsets count bytes, texts consist of characters. This module says which offsets lie between two
characters, when a span cuts out a given stretch, and what it means that a stretch is read
between two cursors.

## Main definitions

* `OneFile.Text.IsBoundary` — an offset between two characters.
* `OneFile.Span.Names` — a span cuts a given stretch out of a source, at character boundaries.
* `OneFile.Cursor.Reads` — a given stretch lies between two cursors.
* `OneFile.Cursor.Before` — some stretch, perhaps an empty one, lies between two cursors.
* `OneFile.Cursor.In` — a cursor is a place in a given source.

## Main results

* `OneFile.Text.exists_append_of_size_le` — of two prefixes one is a prefix of the other.
* `OneFile.Span.names_iff` — a span names a stretch exactly when it splits the source around it.
* `OneFile.Cursor.Reads.names` — what is read between two cursors is named by their offsets.
-/

namespace OneFile

namespace Text

/-! ### Sizes and cuts -/

/-- Only the empty text has no bytes. -/
@[simp] lemma size_eq_zero {s : Text} : s.size = 0 ↔ s = [] := by
  cases s with
  | nil => simp
  | cons c s => simp [Nat.ne_of_gt c.utf8Size_pos]

/-- A text with characters has bytes. -/
lemma size_pos {s : Text} (h : s ≠ []) : 0 < s.size :=
  Nat.pos_of_ne_zero fun h0 => h (size_eq_zero.1 h0)

/-- Dropping the bytes of a prefix leaves what follows it. -/
@[simp] lemma dropBytes_size_append (s t : Text) : dropBytes s.size (s ++ t) = t := by
  induction s with
  | nil => simp [dropBytes]
  | cons c s ih =>
    have hc := c.utf8Size_pos
    obtain ⟨n, hn⟩ : ∃ n, size (c :: s) = n + 1 := ⟨c.utf8Size + size s - 1, by simp; omega⟩
    have hs : n + 1 - c.utf8Size = size s := by rw [← hn, size_cons]; omega
    rw [hn, List.cons_append, dropBytes, hs, ih]

/-- Taking the bytes of a prefix gives the prefix. -/
@[simp] lemma takeBytes_size_append (s t : Text) : takeBytes s.size (s ++ t) = s := by
  have h := takeBytes_append_dropBytes s.size (s ++ t)
  rw [dropBytes_size_append] at h
  exact List.append_cancel_right h

/-- Of two prefixes the one with fewer bytes is a prefix of the other. -/
lemma exists_append_of_size_le {a b c d : Text} (h : a ++ b = c ++ d) (hs : a.size ≤ c.size) :
    ∃ m, c = a ++ m ∧ b = m ++ d := by
  rcases List.append_eq_append_iff.1 h with ⟨m, rfl, rfl⟩ | ⟨m, rfl, rfl⟩
  · exact ⟨m, rfl, rfl⟩
  · have hm : m = [] := size_eq_zero.1 (by rw [size_append] at hs; omega)
    subst hm
    exact ⟨[], by simp, by simp⟩

/-! ### Boundaries -/

/-- The offset lies between two characters of the text, or at one of its ends. -/
def IsBoundary (s : Text) (n : Nat) : Prop := ∃ before after, s = before ++ after ∧ before.size = n

end Text

namespace Span

/-! ### Named stretches -/

/-- **A span names a stretch** of the source: it cuts just this stretch out, and both of its ends
are character boundaries, the second one not before the first. -/
structure Names (source : Text) (span : Span) (piece : Text) : Prop where
  slice_eq : span.slice source = piece
  isBoundary_start : source.IsBoundary span.start
  isBoundary_stop : source.IsBoundary span.stop
  start_le_stop : span.start ≤ span.stop

/-- **A span names a stretch exactly when it splits the source around it.**

**Proof sketch.** The prefixes up to the two ends differ by a stretch of `stop - start` bytes,
and the slice is that stretch. -/
theorem names_iff {source piece : Text} {span : Span} : span.Names source piece ↔
    ∃ before after, source = before ++ piece ++ after ∧
      span = ⟨before.size, before.size + piece.size⟩ := by
  constructor
  · rintro ⟨hslice, ⟨p, q, hpq, hp⟩, ⟨p', q', hpq', hp'⟩, hle⟩
    obtain ⟨m, rfl, rfl⟩ := Text.exists_append_of_size_le (hpq.symm.trans hpq') (by omega)
    have hm : span.stop - span.start = m.size := by rw [Text.size_append] at hp'; omega
    have hpiece : piece = m := by
      rw [← hslice, slice, hm, hpq, ← hp, Text.dropBytes_size_append, Text.takeBytes_size_append]
    subst hpiece
    refine ⟨p, q', hpq', ?_⟩
    obtain ⟨start, stop⟩ := span
    rw [Text.size_append] at hp'
    simp only at hp hp'
    rw [hp, ← hp', hp]
  · rintro ⟨before, after, rfl, rfl⟩
    refine ⟨?_, ⟨before, piece ++ after, by simp, rfl⟩, ⟨before ++ piece, after, rfl, by simp⟩,
      by simp⟩
    simp [slice]

/-- A stretch that starts at an offset is a start of what follows that offset. -/
lemma names_from_iff {before rest piece : Text} {stop : Nat} :
    Span.Names (before ++ rest) ⟨before.size, stop⟩ piece ↔
      ∃ after, rest = piece ++ after ∧ stop = before.size + piece.size := by
  rw [names_iff]
  constructor
  · rintro ⟨b, after, heq, hspan⟩
    simp only [Span.mk.injEq] at hspan
    obtain ⟨hsize, rfl⟩ := hspan
    rw [List.append_assoc] at heq
    have hdrop := congrArg (Text.dropBytes before.size) heq
    rw [Text.dropBytes_size_append, hsize, Text.dropBytes_size_append] at hdrop
    exact ⟨after, hdrop, by rw [hsize]⟩
  · rintro ⟨after, rfl, rfl⟩
    exact ⟨before, after, by rw [List.append_assoc], rfl⟩

/-- A stretch has as many bytes as the span that names it. -/
lemma Names.stop_eq {source piece : Text} {span : Span} (h : span.Names source piece) :
    span.stop = span.start + piece.size := by
  obtain ⟨before, after, -, rfl⟩ := names_iff.1 h
  rfl

/-- Two stretches, the second of which starts where the first one ends, are one stretch. -/
lemma Names.append {source piece piece' : Text} {start mid stop : Nat}
    (h : Names source ⟨start, mid⟩ piece) (h' : Names source ⟨mid, stop⟩ piece') :
    Names source ⟨start, stop⟩ (piece ++ piece') := by
  obtain ⟨before, after, rfl, hspan⟩ := names_iff.1 h
  simp only [Span.mk.injEq] at hspan
  obtain ⟨rfl, rfl⟩ := hspan
  rw [← Text.size_append] at h'
  obtain ⟨rest, rfl, rfl⟩ := names_from_iff.1 h'
  exact names_iff.2 ⟨before, rest, by simp, by simp [Nat.add_assoc]⟩

/-- A span within a named stretch, moved to where the stretch starts, names the same text in the
whole source as it does in the stretch. -/
lemma Names.shift {source piece part : Text} {outer inner : Span} (h : outer.Names source piece)
    (hin : inner.Names piece part) : (inner.shift outer.start).Names source part := by
  obtain ⟨before, after, rfl, rfl⟩ := names_iff.1 h
  obtain ⟨b, a, rfl, rfl⟩ := names_iff.1 hin
  refine names_iff.2 ⟨before ++ b, a ++ after, by simp, ?_⟩
  simp [Span.shift, Nat.add_assoc]

end Span

namespace Cursor

/-! ### What is read between two cursors -/

/-- **A stretch is read** between two cursors: it is what the first one has left beyond what the
second one has left, and it accounts for the distance of their offsets. -/
structure Reads (c : Cursor) (piece : Text) (c' : Cursor) : Prop where
  rest_eq : c.rest = piece ++ c'.rest
  offset_eq : c'.offset = c.offset + piece.size

/-- Stretches read one after the other are read together. -/
lemma Reads.trans {c₁ c₂ c₃ : Cursor} {s t : Text} (h₁ : c₁.Reads s c₂) (h₂ : c₂.Reads t c₃) :
    c₁.Reads (s ++ t) c₃ :=
  ⟨by rw [h₁.rest_eq, h₂.rest_eq, List.append_assoc],
    by rw [h₂.offset_eq, h₁.offset_eq, Text.size_append, Nat.add_assoc]⟩

/-- Nothing is read from a place to itself. -/
lemma Reads.refl (c : Cursor) : c.Reads [] c := ⟨rfl, rfl⟩

/-- Reading one character. -/
lemma reads_cons (c : Char) (s : Text) (o : Nat) :
    Cursor.Reads ⟨c :: s, o⟩ [c] ⟨s, o + c.utf8Size⟩ := ⟨rfl, by simp⟩

/-- Reading one character that takes one byte. -/
lemma reads_ascii {c : Char} (hc : c.utf8Size = 1) (s : Text) (o : Nat) :
    Cursor.Reads ⟨c :: s, o⟩ [c] ⟨s, o + 1⟩ := hc ▸ reads_cons c s o

/-- Advancing over a stretch reads it. -/
lemma reads_advance {c : Cursor} {consumed rest : Text} (h : c.rest = consumed ++ rest) :
    c.Reads consumed (c.advance consumed rest) := ⟨h, rfl⟩

/-- Skipping reads the characters that are skipped. -/
lemma reads_skipWhile (p : Char → Bool) (c : Cursor) :
    c.Reads (c.rest.takeWhile p) (c.skipWhile p) :=
  reads_advance List.takeWhile_append_dropWhile.symm

/-- Skipping separators reads some separators, possibly none. -/
lemma exists_reads_skipSpaces (c : Cursor) :
    ∃ gap : Text, gap.all Text.isSpace ∧ c.Reads gap c.skipSpaces :=
  ⟨_, List.all_takeWhile, reads_skipWhile _ _⟩

/-- Some stretch, perhaps an empty one, is read from one place to the other. -/
def Before (c c' : Cursor) : Prop := ∃ piece, c.Reads piece c'

/-- A cursor is before itself. -/
lemma Before.refl (c : Cursor) : c.Before c := ⟨[], .refl c⟩

/-- What is before a cursor is before those that it is before. -/
lemma Before.trans {c₁ c₂ c₃ : Cursor} (h₁ : c₁.Before c₂) (h₂ : c₂.Before c₃) :
    c₁.Before c₃ := by
  obtain ⟨s, hs⟩ := h₁
  obtain ⟨t, ht⟩ := h₂
  exact ⟨_, hs.trans ht⟩

/-- What comes after the next character, of one byte, comes after the place itself. -/
lemma Before.ascii {c : Char} {s : Text} {o : Nat} {c' : Cursor}
    (h : Cursor.Before ⟨s, o + 1⟩ c') (hc : c.utf8Size = 1) : Cursor.Before ⟨c :: s, o⟩ c' :=
  .trans ⟨_, reads_ascii hc s o⟩ h

/-- Skipping characters goes on. -/
lemma before_skipWhile (p : Char → Bool) (c : Cursor) : c.Before (c.skipWhile p) :=
  ⟨_, reads_skipWhile p c⟩

/-- **A cursor is a place in a source** if what is left to read is the end of the source that
starts at its offset. -/
def In (source : Text) (c : Cursor) : Prop :=
  ∃ before, source = before ++ c.rest ∧ before.size = c.offset

/-- Reading leads from one place in a source to another one. -/
lemma In.of_reads {source piece : Text} {c c' : Cursor} (hc : c.In source)
    (h : c.Reads piece c') : c'.In source := by
  obtain ⟨before, hb, hs⟩ := hc
  exact ⟨before ++ piece, by rw [hb, h.rest_eq, List.append_assoc],
    by rw [Text.size_append, hs, h.offset_eq]⟩

/-- What is read and what is left make up the source. -/
lemma In.offset_add_size {source : Text} {c : Cursor} (h : c.In source) :
    c.offset + c.rest.size = source.size := by
  obtain ⟨before, rfl, hsize⟩ := h
  rw [← hsize, Text.size_append]

/-- Where nothing is left the source ends. -/
lemma In.offset_eq_size {source : Text} {c : Cursor} (h : c.In source) (hrest : c.rest = []) :
    c.offset = source.size := by
  rw [← h.offset_add_size, hrest]
  rfl

/-- One stretch is read between two places. -/
lemma Reads.eq {s t : Text} {c c' : Cursor} (hs : c.Reads s c') (ht : c.Reads t c') : s = t :=
  List.append_cancel_right (hs.rest_eq.symm.trans ht.rest_eq)

/-- Of two places in a source, the one with the smaller offset comes before the other. -/
lemma In.before {source : Text} {c c' : Cursor} (h : c.In source) (h' : c'.In source)
    (hle : c.offset ≤ c'.offset) : c.Before c' := by
  obtain ⟨before, hb, hsize⟩ := h
  obtain ⟨before', hb', hsize'⟩ := h'
  obtain ⟨m, rfl, hm⟩ := Text.exists_append_of_size_le (hb.symm.trans hb') (by omega)
  exact ⟨m, hm, by rw [← hsize', Text.size_append, hsize]⟩

/-- Of two places in a source, the one with more left comes before the other. -/
lemma In.before_of_length_le {source : Text} {c c' : Cursor} (h : c.In source) (h' : c'.In source)
    (hle : c'.rest.length ≤ c.rest.length) : c.Before c' := by
  obtain ⟨before, hb, hsize⟩ := h
  obtain ⟨before', hb', hsize'⟩ := h'
  rcases List.append_eq_append_iff.1 (hb.symm.trans hb') with ⟨m, rfl, hm⟩ | ⟨m, rfl, hm⟩
  · exact ⟨m, hm, by rw [← hsize', Text.size_append, hsize]⟩
  · rw [hm, List.length_append] at hle
    obtain rfl : m = [] := List.length_eq_zero_iff.1 (by omega)
    exact ⟨[], hm.symm, by rw [← hsize', ← hsize, List.append_nil]; rfl⟩

/-- There is one place in a source for an offset. -/
lemma In.eq {source : Text} {c c' : Cursor} (h : c.In source) (h' : c'.In source)
    (hoffset : c.offset = c'.offset) : c = c' := by
  obtain ⟨piece, hpiece⟩ := h.before h' (Nat.le_of_eq hoffset)
  obtain rfl : piece = [] := by
    have hsize := hpiece.offset_eq
    exact Text.size_eq_zero.1 (by omega)
  have hrest : c.rest = c'.rest := hpiece.rest_eq
  obtain ⟨rest, offset⟩ := c
  obtain ⟨rest', offset'⟩ := c'
  simp_all

/-- What is read between two cursors is named by their offsets. -/
lemma Reads.names {source piece : Text} {c c' : Cursor} (h : c.Reads piece c')
    (hc : c.In source) : Span.Names source ⟨c.offset, c'.offset⟩ piece := by
  obtain ⟨before, hb, hs⟩ := hc
  refine Span.names_iff.2 ⟨before, c'.rest, by rw [hb, h.rest_eq, List.append_assoc], ?_⟩
  rw [h.offset_eq, hs]

end Cursor

end OneFile
