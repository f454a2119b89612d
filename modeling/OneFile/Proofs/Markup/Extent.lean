import OneFile.Proofs.Bytes.Slice
import OneFile.Proofs.Markup.RoundTrip
import OneFile.Proofs.Markup.ValueParts

/-!
# The extent of a braced expression

The scan of a braced expression starts at its brace and ends at the one that balances it. Nothing
before the first brace and nothing after the last one takes part in it. So an expression has the
same extent whatever surrounds it: as a node among text, as the value of an attribute, within a
quoted value, and alone after it was written out.

## Main definitions

* `OneFile.Markup.Brace.ReadAlike` — an expression is read with one extent wherever it stands.
* `OneFile.Markup.Brace.HasExtent` — a stretch that ends a scan, wherever it is put.

## Main results

* `OneFile.Text.exists_of_getElem?_octets` — a byte of ASCII is a character of its own.
* `OneFile.Markup.Brace.exists_braced_of_endFrom?` — what a scan that finds an end has passed over.
* `OneFile.Markup.Brace.Closed.readAlike` — a closed expression is read with one extent.
* `OneFile.Markup.Brace.endFrom?_hasExtent` — the end of a scan depends on what it passes over only.
-/

namespace OneFile

namespace Text

/-- **A byte of ASCII is a character of its own**, with a text before and a text after it. -/
lemma exists_of_getElem?_octets {s : Text} {n : Nat} {d : Char} (hd : ¬ IsWide d)
    (h : s.octets[n]? = some d) : ∃ before after, s = before ++ d :: after ∧ before.size = n := by
  obtain ⟨hn, hget⟩ := List.getElem?_eq_some_iff.1 h
  have hdrop : s.octets.drop n = d :: s.octets.drop (n + 1) := by
    rw [List.drop_eq_getElem_cons hn, hget]
  have hcut : s.isCut n = true := by
    have hfirst : isContinuation d = false :=
      Bool.eq_false_iff.2 fun hcontinues => hd (isWide_of_isContinuation hcontinues)
    rw [isCut, hdrop]
    simp [hfirst]
  obtain ⟨before, after, rfl, rfl⟩ := isCut_iff.1 hcut
  rw [drop_size_octets] at hdrop
  obtain ⟨t, rfl, -⟩ := exists_of_octets_eq_cons hd hdrop
  exact ⟨before, t, rfl, rfl⟩

/-- A character of ASCII is a byte of its text. -/
lemma getElem?_octets_append {d : Char} (hd : ¬ IsWide d) (before after : Text) :
    (octets (before ++ d :: after))[before.size]? = some d := by
  rw [octets_append, octets_cons_of_ascii hd, ← length_octets before, List.getElem?_append_right
    (Nat.le_refl _), Nat.sub_self, List.getElem?_cons_zero]

end Text

namespace Markup.Brace

open Text

/-! ### Scans that find an end -/

/-- The scan from a place on is the scan of what stands there. -/
lemma endFrom?_append (before s : Text) : endFrom? (before ++ s) before.size =
    (afterClosing? .initial s).map fun after => before.size + (s.size - after.size) := by
  rw [endFrom?, dropBytes_size_append]
  cases hscan : afterClosing? .initial s with
  | none => rfl
  | some after =>
    have hle : after.size ≤ s.size := by
      obtain ⟨whole, -, rfl⟩ := afterClosing?_eq_some hscan
      rw [size_append]
      omega
    rw [Option.map_some, Option.map_some, size_append, Nat.add_sub_assoc hle]

/-- A closed expression ends at its last brace, whatever stands before and after it. -/
lemma Closed.endFrom?_append {source : Text} (h : Closed source) (before after : Text) :
    endFrom? (before ++ braced source ++ after) before.size =
      some (before.size + (braced source).size) := by
  have hscan : afterClosing? .initial (braced source ++ after) = some ([] ++ after) :=
    afterClosing?_append after h.afterClosing?_braced
  rw [List.append_assoc, Brace.endFrom?_append, hscan, Option.map_some, size_append,
    List.nil_append, Nat.add_sub_cancel_right]

/-- **What a scan that finds an end has passed over**: a closed expression in its braces. -/
theorem exists_braced_of_endFrom? {s : Text} {start stop : Nat}
    (hopen : s.octets[start]? = some '{') (h : endFrom? s start = some stop) :
    ∃ before source after, Closed source ∧
      s = before ++ braced source ++ after ∧ before.size = start ∧
      stop = before.size + (braced source).size := by
  obtain ⟨before, rest, rfl, rfl⟩ := exists_of_getElem?_octets (by decide) hopen
  rw [endFrom?_append] at h
  obtain ⟨after, hscan, rfl⟩ := Option.map_eq_some_iff.1 h
  obtain ⟨whole, -, hwhole⟩ := afterClosing?_eq_some hscan
  have hinside := inside?_eq_some_iff.2 ⟨hscan, whole, hwhole, rfl⟩
  have hbraced := inside?_eq_some hinside
  refine ⟨before, whole.tail.dropLast, after, closed_of_inside? hinside, ?_, rfl, ?_⟩
  · rw [hbraced, List.append_assoc]
  · rw [hbraced, size_append, Nat.add_sub_cancel_right]

/-! ### One extent wherever it stands -/

/-- **An expression is read with one extent** wherever its braces stand, whatever surrounds them:
as a node in any state of a parse, as the value of an attribute, as a stretch of a quoted value, and
as all of a source, which is how it is written out. -/
structure ReadAlike (source : Text) : Prop where
  node : ∀ (st : Markup.State) (after : Text), st.cursor.rest = braced source ++ after →
    st.readExpression = .ok (st.push
      (.expression source ⟨st.cursor.offset, st.cursor.offset + (braced source).size⟩)
      ⟨after, st.cursor.offset + (braced source).size⟩)
  value : ∀ (name after : Text) (start offset : Nat),
    AttributeValue.read name start ⟨braced source ++ after, offset⟩ =
      .ok (.expression source, ⟨after, offset + (braced source).size⟩)
  stretch : ∀ before after : Text, '{' ∉ before →
    valuePartsFrom (before ++ braced source ++ after) =
      literalPart before ++ .expression source :: valuePartsFrom after
  alone : ∀ span, parse (Node.expression source span).render =
    .ok ⟨[.expression source ⟨0, (braced source).size⟩], ⟨0, (braced source).size⟩⟩

/-- An expression is read as a node. -/
lemma Closed.readExpression {source : Text} (h : Closed source) {st : Markup.State} {after : Text}
    (hrest : st.cursor.rest = braced source ++ after) : st.readExpression = .ok (st.push
      (.expression source ⟨st.cursor.offset, st.cursor.offset + (braced source).size⟩)
      ⟨after, st.cursor.offset + (braced source).size⟩) := by
  rw [Markup.State.readExpression, hrest, h.inside?_braced_append, size_braced]
  rfl

/-- **A closed expression is read with one extent.** -/
theorem Closed.readAlike {source : Text} (h : Closed source) : ReadAlike source where
  node _ _ hrest := h.readExpression hrest
  value name after start offset := by
    have hinside := h.inside?_braced_append after
    rw [size_braced]
    rw [braced, List.cons_append, List.cons_append] at hinside ⊢
    simp only [AttributeValue.read, hinside]
    simp [Nat.add_assoc]
  stretch _ after hbefore := valuePartsFrom_append_braced hbefore h after
  alone span := by
    have hstep : Markup.State.step ⟨[], [], ⟨braced source, 0⟩⟩ = .ok ⟨[.expression source
        ⟨0, (braced source).size⟩], [], ⟨[], (braced source).size⟩⟩ := by
      have hread : Markup.State.readExpression ⟨[], [], ⟨braced source, 0⟩⟩ = _ :=
        h.readExpression (List.append_nil _).symm
      simp only [Nat.zero_add] at hread
      exact hread
    rw [Node.render, parse, Markup.State.run_of_step (by simp [braced]) hstep, Markup.State.run_end]
    rfl

/-- **A stretch of a text has an extent of its own**: from its first brace to its last one. There it
is the end of a scan, and so it is wherever the text up to there is put, with anything after it; and
the expression between the two braces is read with this extent wherever they stand. -/
structure HasExtent (s : Text) (start stop : Nat) : Prop where
  start_add_two_le : start + 2 ≤ stop
  stop_le_size : stop ≤ s.size
  closes : s.octets[stop - 1]? = some '}'
  isBoundary : s.IsBoundary stop
  anywhere : ∀ before after : Text,
    endFrom? (before ++ s.takeBytes stop ++ after) (before.size + start) = some (before.size + stop)
  readAlike : ∃ source, Span.Names s ⟨start, stop⟩ (braced source) ∧ ReadAlike source

/-- **The end of a scan depends on what it passes over only.** A scan that starts at a brace and
finds an end passes over a stretch that has an extent of its own.

**Proof sketch.** What the scan passes over is a closed expression in its braces
(`exists_braced_of_endFrom?`), and a closed expression ends at its last brace whatever stands around
it (`Closed.endFrom?_append`). -/
theorem endFrom?_hasExtent {s : Text} {start stop : Nat} (hopen : s.octets[start]? = some '{')
    (h : endFrom? s start = some stop) : HasExtent s start stop := by
  obtain ⟨before, source, after, hclosed, rfl, rfl, rfl⟩ := exists_braced_of_endFrom? hopen h
  have htake : takeBytes (before.size + (braced source).size) (before ++ braced source ++ after) =
      before ++ braced source := by
    rw [← size_append, takeBytes_size_append]
  have hlast : before ++ braced source ++ after = before ++ '{' :: source ++ '}' :: after := by
    simp [braced]
  refine ⟨?_, ?_, ?_, ⟨_, _, rfl, size_append _ _⟩, fun p t => ?_, source, ?_, hclosed.readAlike⟩
  · rw [size_braced]
    omega
  · rw [size_append, size_append]
    omega
  · have hplace : before.size + (braced source).size - 1 = size (before ++ '{' :: source) := by
      have hbrace : ('{').utf8Size = 1 := rfl
      rw [size_braced, size_append, size_cons, hbrace]
      omega
    rw [hplace, hlast]
    exact getElem?_octets_append (by decide) _ _
  · have hscan := hclosed.endFrom?_append (p ++ before) t
    rw [size_append, Nat.add_assoc] at hscan
    rw [htake, ← List.append_assoc]
    exact hscan
  · exact Span.names_iff.2 ⟨before, after, rfl, rfl⟩

/-- The brace within the string does not end this expression, which stands after a wide
character. -/
theorem endFrom?_hasExtent_quotedBrace :
    (octets "é\x7b\"\x7d\"\x7d/".toList)[2]? = some '{' ∧
      endFrom? "é\x7b\"\x7d\"\x7d/".toList 2 = some 7 ∧
      HasExtent "é\x7b\"\x7d\"\x7d/".toList 2 7 :=
  ⟨by decide +kernel, by decide +kernel,
    endFrom?_hasExtent (by decide +kernel) (by decide +kernel)⟩

end Markup.Brace

end OneFile
