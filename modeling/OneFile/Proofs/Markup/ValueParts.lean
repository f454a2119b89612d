import Mathlib.Data.List.Chain
import Mathlib.Data.List.TakeWhile
import OneFile.Proofs.Markup.Lossless

/-!
# How a quoted value is split

A quoted value is split into literal stretches and expressions. The stretches show where the value
was cut: an expression is a balanced one, two literal stretches never meet, and a brace in a literal
stretch is one that nothing balances. There is only one way to cut a value like this.

## Main definitions

* `OneFile.Markup.CutAtBraces` — stretches that are cut just at the balanced braces.
* `OneFile.Markup.SplitOf` — what the stretches of a given value have to be.

## Main results

* `OneFile.Markup.valuePartsFrom_append_braced` — a literal stretch ends before a closed expression.
* `OneFile.Markup.valuePartsFrom_eq_iff` — the stretches of a text are the ones that render as it
  and are cut at its braces.
* `OneFile.Markup.valueParts_splits_value` — the same for a whole value, which may be empty.

## Design

`CutAtBraces` says nothing about the value that was cut, so it passes on to the later stretches. The
value comes in only with `SplitOf`, where the brace that nothing balances is given by its offset.
-/

namespace OneFile.Markup

/-- Whether a stretch is a literal one. -/
def ValuePart.isText : ValuePart → Bool
  | .text _ => true
  | .expression _ => false

/-- **Stretches cut at the balanced braces**: no literal stretch is empty, no two of them are
neighbours, expressions are closed, and a literal stretch has no brace but the last one, in which
the first brace is not balanced. -/
structure CutAtBraces (parts : List ValuePart) : Prop where
  text_ne_nil : .text [] ∉ parts
  apart : parts.IsChain fun a b => ¬ (a.isText = true ∧ b.isText = true)
  closed : ∀ e, .expression e ∈ parts → Brace.Closed e
  no_brace : ∀ t, .text t ∈ parts.dropLast → '{' ∉ t
  unbalanced : ∀ t, parts.getLast? = some (.text t) →
    Brace.inside? (t.dropWhile (· != '{')) = none

/-! ### Stretches one after the other -/

/-- No stretches are cut at braces. -/
lemma cutAtBraces_nil : CutAtBraces [] :=
  ⟨by simp, .nil, by simp, by simp, by simp⟩

/-- The later stretches are cut at braces if all of them are. -/
lemma CutAtBraces.tail {part : ValuePart} {parts : List ValuePart}
    (h : CutAtBraces (part :: parts)) : CutAtBraces parts where
  text_ne_nil hmem := h.text_ne_nil (List.mem_cons_of_mem _ hmem)
  apart := h.apart.tail
  closed e he := h.closed e (List.mem_cons_of_mem _ he)
  no_brace t ht := by
    refine h.no_brace t ?_
    cases parts with
    | nil => cases ht
    | cons part' parts => exact List.mem_cons_of_mem _ ht
  unbalanced t ht := by
    refine h.unbalanced t ?_
    cases parts with
    | nil => cases ht
    | cons part' parts => rwa [List.getLast?_cons_cons]

/-- A closed expression may come before stretches that are cut at braces. -/
lemma CutAtBraces.cons_expression {e : Text} {parts : List ValuePart} (h : CutAtBraces parts)
    (he : Brace.Closed e) : CutAtBraces (.expression e :: parts) where
  text_ne_nil := by simpa using h.text_ne_nil
  apart := List.isChain_cons.2 ⟨by simp [ValuePart.isText], h.apart⟩
  closed e' he' := by
    rcases List.mem_cons.1 he' with heq | he'
    · exact (ValuePart.expression.inj heq) ▸ he
    · exact h.closed e' he'
  no_brace t ht := by
    cases parts with
    | nil => cases ht
    | cons part parts =>
      rw [List.dropLast_cons_cons, List.mem_cons] at ht
      exact h.no_brace t (ht.resolve_left (by simp))
  unbalanced t ht := by
    cases parts with
    | nil => simp at ht
    | cons part parts =>
      rw [List.getLast?_cons_cons] at ht
      exact h.unbalanced t ht

/-- A literal stretch without a brace may come before an expression. -/
lemma CutAtBraces.cons_text {t e : Text} {parts : List ValuePart}
    (h : CutAtBraces (.expression e :: parts)) (hne : t ≠ []) (hfree : '{' ∉ t) :
    CutAtBraces (.text t :: .expression e :: parts) where
  text_ne_nil hmem := by
    rcases List.mem_cons.1 hmem with heq | hmem
    · exact hne (ValuePart.text.inj heq).symm
    · exact h.text_ne_nil hmem
  apart := List.isChain_cons_cons.2 ⟨by simp [ValuePart.isText], h.apart⟩
  closed e' he' := h.closed e' (by simpa using he')
  no_brace t' ht' := by
    rw [List.dropLast_cons_cons, List.mem_cons] at ht'
    rcases ht' with heq | ht'
    · exact (ValuePart.text.inj heq) ▸ hfree
    · exact h.no_brace t' ht'
  unbalanced t' ht' := h.unbalanced t' (by rwa [List.getLast?_cons_cons] at ht')

/-- A text in which no brace is balanced is one literal stretch, unless it is empty. -/
lemma cutAtBraces_literalPart {t : Text} (h : Brace.inside? (t.dropWhile (· != '{')) = none) :
    CutAtBraces (literalPart t) := by
  unfold literalPart
  split_ifs with hempty
  · exact cutAtBraces_nil
  · have hne : t ≠ [] := fun hnil => hempty (List.isEmpty_iff.2 hnil)
    refine ⟨by simpa using hne, .singleton _, by simp, by simp, fun t' ht' => ?_⟩
    obtain rfl : t = t' := by simpa using ht'
    exact h

/-! ### Splitting -/

/-- What follows the characters before the first brace is nothing, or starts with the brace. -/
lemma dropWhile_brace_cases (s : Text) : '{' ∉ s ∧ s.dropWhile (· != '{') = [] ∨
    ∃ after, s.dropWhile (· != '{') = '{' :: after := by
  cases hdrop : s.dropWhile (· != '{') with
  | nil =>
    have hall := List.dropWhile_eq_nil_iff.1 hdrop
    exact .inl ⟨fun hmem => by simpa using hall _ hmem, rfl⟩
  | cons c after =>
    have hhead : c ∈ (s.dropWhile (· != '{')).head? := by rw [hdrop]; rfl
    obtain rfl : c = '{' := by simpa using Text.eq_false_of_mem_head?_dropWhile hhead
    exact .inr ⟨after, rfl⟩

/-- There is no brace before the first brace. -/
lemma brace_notMem_takeWhile (s : Text) : '{' ∉ s.takeWhile (· != '{') := fun hmem => by
  simpa using List.mem_takeWhile_imp hmem

/-- The characters before the first brace. -/
lemma takeWhile_append_brace {t : Text} (hfree : '{' ∉ t) (s : Text) :
    (t ++ '{' :: s).takeWhile (· != '{') = t :=
  Text.takeWhile_append_of_stop (fun _ hc => bne_iff_ne.2 (ne_of_mem_of_not_mem hc hfree)) rfl

/-- What there is from the first brace on. -/
lemma dropWhile_append_brace {t : Text} (hfree : '{' ∉ t) (s : Text) :
    (t ++ '{' :: s).dropWhile (· != '{') = '{' :: s :=
  Text.dropWhile_append_of_stop (fun _ hc => bne_iff_ne.2 (ne_of_mem_of_not_mem hc hfree)) rfl

/-- **A literal stretch ends before a closed expression**, and after the expression splitting
starts anew. -/
theorem valuePartsFrom_append_braced {t e : Text} (hfree : '{' ∉ t) (he : Brace.Closed e)
    (rest : Text) : valuePartsFrom (t ++ braced e ++ rest) =
      literalPart t ++ .expression e :: valuePartsFrom rest := by
  have htake : (t ++ braced e ++ rest).takeWhile (· != '{') = t := by
    rw [List.append_assoc]
    exact takeWhile_append_brace hfree _
  have hdrop : (t ++ braced e ++ rest).dropWhile (· != '{') = braced e ++ rest := by
    rw [List.append_assoc]
    exact dropWhile_append_brace hfree _
  rw [valuePartsFrom]
  split
  · rename_i hnone
    rw [hdrop, he.inside?_braced_append] at hnone
    cases hnone
  · rename_i source after hsome
    rw [hdrop, he.inside?_braced_append] at hsome
    cases hsome
    rw [htake]

/-- A text in which no brace is balanced is not split. -/
lemma valuePartsFrom_of_unbalanced {t : Text}
    (h : Brace.inside? (t.dropWhile (· != '{')) = none) : valuePartsFrom t = literalPart t := by
  rw [valuePartsFrom]
  split
  · rfl
  · rename_i hsome
    rw [h] at hsome
    cases hsome

/-- **Splitting cuts at the balanced braces.**

**Proof sketch.** Induction along the splitting. An expression that was found is closed, as the scan
did not look beyond it, and there is no brace in the stretch before it. -/
theorem cutAtBraces_valuePartsFrom (value : Text) : CutAtBraces (valuePartsFrom value) := by
  fun_induction valuePartsFrom value with
  | case1 value hinside => exact cutAtBraces_literalPart hinside
  | case2 value source after hinside ih =>
    obtain ⟨-, hdrop⟩ | ⟨rest, hdrop⟩ := dropWhile_brace_cases value
    · rw [hdrop] at hinside
      cases hinside
    rw [hdrop] at hinside
    have hexpression := ih.cons_expression (Brace.closed_of_inside? hinside)
    unfold literalPart
    split_ifs with hempty
    · exact hexpression
    · exact hexpression.cons_text (fun hnil => hempty (List.isEmpty_iff.2 hnil))
        (brace_notMem_takeWhile value)

/-- **Stretches that are cut at the balanced braces come back** from what they render as.

**Proof sketch.** Induction on the stretches. A literal one is the last, or an expression follows
it; where it is the last, none of its braces is balanced. -/
theorem CutAtBraces.valuePartsFrom_render {parts : List ValuePart} (h : CutAtBraces parts) :
    valuePartsFrom (parts.flatMap ValuePart.render) = parts := by
  induction parts with
  | nil => exact valuePartsFrom_of_unbalanced rfl
  | cons part parts ih =>
    cases part with
    | expression e =>
      have hstep := valuePartsFrom_append_braced (t := []) (by simp) (h.closed e (by simp))
        (parts.flatMap ValuePart.render)
      rw [ih h.tail] at hstep
      exact hstep
    | text t =>
      have hne : t ≠ [] := fun hnil => h.text_ne_nil (by simp [hnil])
      have hliteral : literalPart t = [.text t] := by simp [literalPart, hne]
      cases parts with
      | nil =>
        have hlast := valuePartsFrom_of_unbalanced (h.unbalanced t (by simp))
        rw [hliteral] at hlast
        simpa [ValuePart.render] using hlast
      | cons next parts =>
        cases next with
        | text t' => exact absurd ⟨rfl, rfl⟩ (List.isChain_cons_cons.1 h.apart).1
        | expression e =>
          have hclosed : Brace.Closed e := h.closed e (by simp)
          have hcut := valuePartsFrom_append_braced (h.no_brace t (by simp)) hclosed
            (parts.flatMap ValuePart.render)
          have hnext := valuePartsFrom_append_braced (t := []) (by simp) hclosed
            (parts.flatMap ValuePart.render)
          calc valuePartsFrom (t ++ (braced e ++ parts.flatMap ValuePart.render))
              = literalPart t ++ valuePartsFrom (braced e ++ parts.flatMap ValuePart.render) := by
                rw [← List.append_assoc, hcut]
                exact congrArg (literalPart t ++ ·) hnext.symm
            _ = .text t :: .expression e :: parts := by
                rw [hliteral]
                exact congrArg (ValuePart.text t :: ·) (ih h.tail)

/-- **The stretches of a text from one of them on** are the ones that render as it and are cut at
the balanced braces. -/
theorem valuePartsFrom_eq_iff {value : Text} {parts : List ValuePart} :
    valuePartsFrom value = parts ↔ parts.flatMap ValuePart.render = value ∧ CutAtBraces parts := by
  constructor
  · rintro rfl
    exact ⟨flatMap_render_valuePartsFrom value, cutAtBraces_valuePartsFrom value⟩
  · rintro ⟨rfl, h⟩
    exact h.valuePartsFrom_render

/-! ### Whole values -/

/-- **What the stretches of a value have to be**: they render as the value, and they are cut at its
balanced braces. There is always one, and it is empty for the empty value only. Where the last
stretch is a literal one with a brace, the scan of the value finds no end from there. -/
structure SplitOf (value : Text) (parts : List ValuePart) : Prop where
  render : parts.flatMap ValuePart.render = value
  ne_nil : parts ≠ []
  text_ne_nil : value ≠ [] → .text [] ∉ parts
  apart : parts.IsChain fun a b => ¬ (a.isText = true ∧ b.isText = true)
  closed : ∀ e, .expression e ∈ parts →
    Brace.endFrom? (braced e) 0 = some (braced e).size
  no_brace : ∀ t, .text t ∈ parts.dropLast → '{' ∉ t
  unbalanced : ∀ init before after, parts = init ++ [.text (before ++ '{' :: after)] →
    '{' ∉ before →
      Brace.endFrom? value (Text.size (init.flatMap ValuePart.render) + before.size) = none

/-- The scan of a text finds no end from a place on if no balanced expression stands there. -/
lemma endFrom?_eq_none_iff (before s : Text) :
    Brace.endFrom? (before ++ s) before.size = none ↔ Brace.inside? s = none := by
  simp [Brace.endFrom?, Brace.inside?, Brace.balanced?]

/-- **Where nothing balances the first brace** of a literal stretch at the end, the scan of the
whole value finds no end from that brace on. -/
lemma unbalanced_iff (parts : List ValuePart) :
    (∀ t, parts.getLast? = some (.text t) → Brace.inside? (t.dropWhile (· != '{')) = none) ↔
      ∀ init before after, parts = init ++ [.text (before ++ '{' :: after)] → '{' ∉ before →
        Brace.endFrom? (parts.flatMap ValuePart.render)
          (Text.size (init.flatMap ValuePart.render) + before.size) = none := by
  constructor
  · rintro h init before after rfl hfree
    have hlast := h (before ++ '{' :: after) (by simp)
    rw [dropWhile_append_brace hfree] at hlast
    have hscan := endFrom?_eq_none_iff (init.flatMap ValuePart.render ++ before) ('{' :: after)
    rw [Text.size_append] at hscan
    simpa [ValuePart.render] using hscan.2 hlast
  · intro h t ht
    obtain ⟨-, hdrop⟩ | ⟨after, hdrop⟩ := dropWhile_brace_cases t
    · rw [hdrop]
      rfl
    obtain ⟨init, hparts⟩ := List.getLast?_eq_some_iff.1 ht
    have htext : t.takeWhile (· != '{') ++ '{' :: after = t := by
      rw [← hdrop, List.takeWhile_append_dropWhile]
    have hscan := h init _ after (htext.symm ▸ hparts) (brace_notMem_takeWhile t)
    have hvalue : parts.flatMap ValuePart.render =
        init.flatMap ValuePart.render ++ t.takeWhile (· != '{') ++ '{' :: after := by
      rw [hparts, List.append_assoc, htext]
      simp [ValuePart.render]
    rw [hvalue, ← Text.size_append, endFrom?_eq_none_iff] at hscan
    rw [hdrop]
    exact hscan

/-- The empty value is one empty stretch. -/
lemma splitOf_nil_iff {parts : List ValuePart} : SplitOf [] parts ↔ parts = [.text []] := by
  constructor
  · intro h
    have hempty : ∀ part ∈ parts, part = .text [] := by
      intro part hpart
      have hrender := List.flatMap_eq_nil_iff.1 h.render part hpart
      cases part with
      | text t => exact congrArg ValuePart.text hrender
      | expression e => simp [ValuePart.render, braced] at hrender
    obtain ⟨part, rest, rfl⟩ := List.exists_cons_of_ne_nil h.ne_nil
    obtain rfl := hempty part List.mem_cons_self
    cases rest with
    | nil => rfl
    | cons part' rest =>
      obtain rfl := hempty part' (by simp)
      exact absurd ⟨rfl, rfl⟩ (List.isChain_cons_cons.1 h.apart).1
  · rintro rfl
    refine ⟨rfl, by simp, by simp, .singleton _, by simp, by simp, ?_⟩
    intro init before after heq
    have hlast := congrArg List.getLast? heq
    simp at hlast

/-- The stretches of a value that is not empty are cut at its braces. -/
lemma splitOf_iff_cutAtBraces {value : Text} {parts : List ValuePart} (hne : value ≠ []) :
    SplitOf value parts ↔ parts.flatMap ValuePart.render = value ∧ CutAtBraces parts := by
  constructor
  · rintro ⟨rfl, -, htext, hapart, hclosed, hfree, hunbalanced⟩
    exact ⟨rfl, htext hne, hapart, hclosed, hfree, (unbalanced_iff parts).2 hunbalanced⟩
  · rintro ⟨rfl, h⟩
    refine ⟨rfl, ?_, fun _ => h.text_ne_nil, h.apart, h.closed, h.no_brace,
      (unbalanced_iff parts).1 h.unbalanced⟩
    rintro rfl
    exact hne rfl

/-- The stretches of a value that is not empty are those from the first one on. -/
lemma valueParts_of_ne_nil {value : Text} (hne : value ≠ []) :
    valueParts value = valuePartsFrom value := by
  unfold valueParts
  split
  · rename_i hnil
    have hrender := flatMap_render_valuePartsFrom value
    rw [hnil] at hrender
    exact absurd hrender.symm hne
  · rfl

/-- **Splitting a quoted value loses nothing, and cuts it just at its balanced braces.** The
stretches render as the value. There is at least one; none is empty unless the value is, and no two
literal ones are neighbours. Each expression, in its braces again, balances at its very end. Only
the last literal stretch may hold a brace, and then the scan of the value finds no end from the
first one of them. No other stretches are like this, so any that are come back from what they
render as, and those of a value do.

**Proof sketch.** The empty value is split by hand. Any other value is split as its text is, from
the first stretch on, and there the conditions pass on from each stretch to the later ones. -/
theorem valueParts_splits_value (value : Text) :
    (∀ parts, parts = valueParts value ↔ SplitOf value parts) ∧
      valueParts ((valueParts value).flatMap ValuePart.render) = valueParts value := by
  refine ⟨fun parts => ?_, by rw [flatMap_render_valueParts]⟩
  by_cases hne : value = []
  · subst hne
    have hnil : valueParts [] = [.text []] := by
      rw [valueParts, valuePartsFrom_of_unbalanced rfl]
      rfl
    rw [hnil, splitOf_nil_iff]
  · rw [valueParts_of_ne_nil hne, splitOf_iff_cutAtBraces hne, ← valuePartsFrom_eq_iff]
    exact eq_comm

/-- Nothing balances the second brace of this value, so the third one is not looked at. -/
example : valueParts "a\x7bb\x7d\x7bc\x7b".toList =
    [.text "a".toList, .expression "b".toList, .text "\x7bc\x7b".toList] := by
  decide +kernel

end OneFile.Markup
