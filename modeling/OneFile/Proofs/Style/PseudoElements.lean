import Mathlib.Data.List.DropRight
import OneFile.Proofs.Style.Storage
import OneFile.Style.Scope

/-!
# Pseudo-elements of the subject

What a selector is about may be a pseudo-element, a part of a shadow tree or an element in a slot.
These come after the element that they belong to. An attribute that is asked of the element has to
come before the first of them.

## Main definitions

* `OneFile.Style.Selector.subject` — what comes after the last combinator between two elements of
  one tree.
* `OneFile.Style.Selector.RequiresAtOrigin` — scoping asks for the attribute at the element that the
  pseudo-elements belong to.
* `OneFile.Style.Selector.joinsFirst` — the first pseudo-element is joined to its element as
  pseudo-elements are.
* `OneFile.Style.Sheet.selectors` — the selectors of a style sheet, at any depth.

## Main results

* `OneFile.Style.Selector.requiresAtOrigin_iff` — where the attribute goes depends on how the first
  pseudo-element is joined to its element.
* `OneFile.Style.scope?_requires_at_origin` — so it is for all selectors of a style sheet.
* `OneFile.Style.not_requires_at_origin_part` — after a part the attribute is not at its host.

## Design

Scoping knows a pseudo-element by the combinator in front of it. Parts and elements in slots have
combinators of their own, and a pseudo-element of unknown name has none. Which of these a selector
has is not restricted here: the results hold of any list of components.
-/

namespace OneFile.Style

/-- Whether a component is a pseudo-element, of any kind. -/
def Component.isPseudoElement : Component → Bool
  | .pseudoElement _ | .cue .. | .transition .. | .pseudoElementFunction .. | .part _
  | .slotted _ => true
  | _ => false

namespace Selector

/-! ### The subject and its element -/

/-- Whether a component is a combinator between two elements of one tree. -/
def isRelation (c : Component) : Bool :=
  match c.combinator? with
  | some .descendant | some .child | some .nextSibling | some .laterSibling => true
  | _ => false

/-- Whether a component is a combinator that leads to a shadow tree or to a slot. -/
def leadsOut (c : Component) : Bool :=
  match c.combinator? with
  | some .part | some .slotAssignment => true
  | _ => false

/-- What comes after the last combinator between two elements of one tree. -/
def subject (s : Selector) : Selector := s.rtakeWhile (!isRelation ·)

/-- What comes up to and with the last combinator between two elements of one tree. -/
def context (s : Selector) : Selector := s.rdropWhile (!isRelation ·)

/-- Whether a component says something of an element: it is neither a combinator nor a
pseudo-element. -/
def isPlain (c : Component) : Bool := !isCombinator c && !c.isPseudoElement

/-- **The attribute is asked of the element that the subject starts with**: it is inserted after
components that say something of that element, before all combinators and pseudo-elements of the
subject. -/
def RequiresAtOrigin (attr : Text) (s : Selector) : Prop :=
  ∃ origin rest, subject s = origin ++ rest ∧ (∀ c ∈ origin, isPlain c = true) ∧
    scope attr s = context s ++ origin ++ presence attr :: rest

/-- **The first pseudo-element is joined to its element as pseudo-elements are**: no combinator of
the subject leads out of the tree, and no pseudo-element comes before the combinator of
pseudo-elements. -/
def joinsFirst (s : Selector) : Bool :=
  (subject s).all (!leadsOut ·) &&
    ((subject s).takeWhile (!isElementMark ·)).all (!·.isPseudoElement)

variable {attr : Text} {s : Selector}

/-- A combinator is of one of three kinds. -/
lemma isCombinator_iff {c : Component} :
    isCombinator c = true ↔ isRelation c = true ∨ leadsOut c = true ∨ isElementMark c = true := by
  unfold isCombinator isRelation leadsOut isElementMark
  cases c.combinator? with
  | none => simp
  | some k => cases k <;> simp

/-- Combinators between elements are those within a tree and those that lead out of it. -/
lemma isBoundary_iff {c : Component} :
    isBoundary c = true ↔ isRelation c = true ∨ leadsOut c = true := by
  unfold isBoundary isRelation leadsOut isElementMark
  cases c.combinator? with
  | none => simp
  | some k => cases k <;> simp

/-- A selector is its context and its subject. -/
lemma context_append_subject (s : Selector) : context s ++ subject s = s :=
  List.rdropWhile_append_rtakeWhile

/-- There is no combinator in the subject. -/
lemma isRelation_of_mem_subject {c : Component} (hc : c ∈ subject s) : isRelation c = false := by
  simpa using List.mem_rtakeWhile_imp hc

/-- Scoping leaves what comes before the subject alone. -/
lemma scope_eq_context_append (attr : Text) (s : Selector) :
    scope attr s = context s ++ scope attr (subject s) := by
  by_cases hnil : context s = []
  · have hs := context_append_subject s
    rw [hnil, List.nil_append] at hs
    rw [hnil, hs, List.nil_append]
  · have hlast := List.rdropWhile_last_not (!isRelation ·) s hnil
    have hboundary : isBoundary ((context s).getLast hnil) = true :=
      isBoundary_iff.2 (.inl (by simpa [context] using hlast))
    have hcut := List.dropLast_append_getLast hnil
    have hsplit : s = (context s).dropLast ++ (context s).getLast hnil :: subject s := by
      rw [← List.singleton_append, ← List.append_assoc, hcut, context_append_subject]
    conv_lhs => rw [hsplit]
    rw [scope_append attr hboundary, ← List.singleton_append, ← List.append_assoc, hcut]

/-! ### Where the attribute goes -/

/-- Inserting a component at two places gives the same only if that component is all there is
between them. -/
lemma eq_or_mem_of_insert_eq {p c : Component} {q r origin rest : Selector}
    (hsame : q ++ r = origin ++ rest) (hinsert : q ++ p :: r = origin ++ p :: rest) (hc : c ∈ q) :
    c = p ∨ c ∈ origin := by
  rcases List.append_eq_append_iff.1 hsame with ⟨m, rfl, rfl⟩ | ⟨m, rfl, rfl⟩
  · exact .inr (List.mem_append_left _ hc)
  · rcases List.mem_append.1 hc with hc | hc
    · exact .inr hc
    · refine .inl ?_
      rw [List.append_assoc, List.append_cancel_left_eq] at hinsert
      -- `m` moves past `p`, so it consists of copies of it
      have hmove : m ++ [p] = p :: m := by
        have hcut : m ++ [p] ++ r = p :: m ++ r := by simpa using hinsert
        exact List.append_cancel_right hcut
      clear hsame hinsert
      induction m with
      | nil => simp at hc
      | cons d m ih =>
        simp only [List.cons_append, List.cons.injEq] at hmove
        obtain ⟨rfl, hmove⟩ := hmove
        rcases List.mem_cons.1 hc with rfl | hc
        · rfl
        · exact ih (List.mem_append_right _ hc) hc hmove

/-- The attribute is asked of the element that the subject starts with exactly when nothing but
plain components comes before it in the subject. -/
lemma requiresAtOrigin_iff_take : RequiresAtOrigin attr s ↔
    ∀ c ∈ (subject s).take (subjectEnd (subject s)), isPlain c = true := by
  rw [RequiresAtOrigin, scope_eq_context_append, scope]
  constructor
  · rintro ⟨origin, rest, hsubject, hplain, hscope⟩ c hc
    rw [List.append_assoc, List.append_cancel_left_eq] at hscope
    have hcut := (List.take_append_drop (subjectEnd (subject s)) (subject s)).trans hsubject
    rcases eq_or_mem_of_insert_eq hcut hscope hc with rfl | hmem
    · rfl
    · exact hplain c hmem
  · intro hplain
    exact ⟨_, _, (List.take_append_drop _ _).symm, hplain, (List.append_assoc ..).symm⟩

/-- **Where the attribute goes depends on how the first pseudo-element is joined.** It is asked of
the element that the subject starts with exactly when no part and no slot is in the subject, and
the first pseudo-element, if there is one, comes after the combinator of pseudo-elements.

**Proof sketch.** After a combinator that leads out, the subject is looked for behind it. Where
there is none, the attribute comes before the first combinator of pseudo-elements, or at the end;
so it is a matter of what comes before that place. -/
theorem requiresAtOrigin_iff : RequiresAtOrigin attr s ↔ joinsFirst s = true := by
  rw [requiresAtOrigin_iff_take]
  simp only [joinsFirst, Bool.and_eq_true, List.all_eq_true, Bool.not_eq_true']
  by_cases hout : ∀ c ∈ subject s, leadsOut c = false
  · have hsubject : IsSubject (subject s) := by
      intro c hc
      rw [← Bool.not_eq_true, isBoundary_iff]
      simp [isRelation_of_mem_subject hc, hout c hc]
    have htake : (subject s).take (subjectEnd (subject s)) =
        (subject s).takeWhile (!isElementMark ·) := by
      have hend : subjectEnd (subject s) = ((subject s).takeWhile (!isElementMark ·)).length := by
        simp [subjectEnd, splitSubject_of_isSubject hsubject]
      rw [hend]
      exact (List.prefix_iff_eq_take.1 (List.takeWhile_prefix _)).symm
    rw [htake]
    refine ⟨fun h => ⟨hout, fun c hc => ?_⟩, fun h c hc => ?_⟩
    · have hplain := h c hc
      simp only [isPlain, Bool.and_eq_true, Bool.not_eq_true'] at hplain
      exact hplain.2
    · have hmem := (List.takeWhile_sublist _).mem hc
      have hmark : isElementMark c = false := by simpa using List.mem_takeWhile_imp hc
      have hcombinator : isCombinator c = false := by
        rw [← Bool.not_eq_true, isCombinator_iff]
        simp [isRelation_of_mem_subject hmem, hout c hmem, hmark]
      simp [isPlain, hcombinator, h.2 c hc]
  · refine iff_of_false (fun h => ?_) fun h => hout h.1
    obtain ⟨c, hc, hleads⟩ : ∃ c ∈ subject s, leadsOut c = true := by simpa using hout
    obtain ⟨before, after, heq⟩ := List.append_of_mem hc
    have hmem : c ∈ (subject s).take (subjectEnd (subject s)) := by
      have hcons : before ++ c :: after = (before ++ [c]) ++ after := by simp
      rw [heq, subjectEnd_append (isBoundary_iff.2 (.inr hleads)), hcons,
        List.take_length_add_append]
      simp
    have hplain := h c hmem
    simp [isPlain, isCombinator_iff.2 (.inr (.inl hleads))] at hplain

end Selector

/-! ### Style sheets -/

/-- The selectors of a head. -/
def Head.selectors : Head → List Selector
  | .style selectors | .nest selectors => selectors
  | .scope start stop => start.getD [] ++ stop.getD []
  | _ => []

namespace Rule

mutual

/-- The selectors of all heads in a rule. -/
def selectors : Rule → List Selector
  | .block head body => head.selectors ++ selectorsAll body
  | _ => []

/-- The selectors of all heads in some rules. -/
def selectorsAll : List Rule → List Selector
  | [] => []
  | r :: rs => selectors r ++ selectorsAll rs

end

end Rule

/-- The selectors of a style sheet, those of nested rules and of rules within other rules
included. -/
def Sheet.selectors (sheet : Sheet) : List Selector := Rule.selectorsAll sheet.rules

/-- The selectors in a head are changed one by one. -/
lemma Head.selectors_mapSelectors (f : Selector → Selector) (head : Head) :
    (head.mapSelectors f).selectors = head.selectors.map f := by
  cases head with
  | scope start stop => cases start <;> cases stop <;> simp [Head.mapSelectors, Head.selectors]
  | _ => rfl

namespace Rule

mutual

/-- So are those in a rule. -/
lemma selectors_mapSelectors (f : Selector → Selector) (r : Rule) :
    (r.mapSelectors f).selectors = r.selectors.map f := by
  cases r with
  | block head body =>
    rw [mapSelectors, selectors, selectors, Head.selectors_mapSelectors,
      selectorsAll_mapAllSelectors f body, List.map_append]
  | declarations ds => rfl
  | statement st => rfl

/-- A change of selectors changes each of them. -/
lemma selectorsAll_mapAllSelectors (f : Selector → Selector) (rs : List Rule) :
    selectorsAll (mapAllSelectors f rs) = (selectorsAll rs).map f := by
  cases rs with
  | nil => rfl
  | cons r rs =>
    rw [mapAllSelectors, selectorsAll, selectorsAll, selectors_mapSelectors f r,
      selectorsAll_mapAllSelectors f rs, List.map_append]

end

end Rule

open Selector

/-- **Where a scoped style sheet asks for the attribute.** A style sheet that is accepted is written
with each of its selectors scoped. In each of them the attribute is asked of the element that the
subject starts with, before all its pseudo-elements, exactly when the first pseudo-element is joined
as pseudo-elements are. -/
theorem scope?_requires_at_origin {id css out : Text} (h : scope? id css = some out) :
    ∃ sheet, Sheet.read? css = some sheet ∧
      out = (sheet.scope (Markup.scopeAttribute id)).write ∧
      (sheet.scope (Markup.scopeAttribute id)).selectors =
        sheet.selectors.map (Selector.scope (Markup.scopeAttribute id)) ∧
      ∀ s ∈ sheet.selectors,
        (RequiresAtOrigin (Markup.scopeAttribute id) s ↔ joinsFirst s = true) := by
  obtain ⟨sheet, hread, rfl⟩ := Option.map_eq_some_iff.1 h
  exact ⟨sheet, hread, rfl, Rule.selectorsAll_mapAllSelectors _ _,
    fun _ _ => requiresAtOrigin_iff⟩

/-- A pseudo-element after a child combinator comes after the attribute. -/
theorem scope?_requires_at_child : ∃ sheet,
    Sheet.read? ".a > .b::before\x7b\x7d".toList = some sheet ∧
    ".a > .b[data-scope-z1]:before \x7b\n\x7d\n".toList =
      (sheet.scope (Markup.scopeAttribute "z1".toList)).write ∧
    ∀ s ∈ sheet.selectors, RequiresAtOrigin (Markup.scopeAttribute "z1".toList) s := by
  have hscope : scope? "z1".toList ".a > .b::before\x7b\x7d".toList =
      some ".a > .b[data-scope-z1]:before \x7b\n\x7d\n".toList := by
    decide +kernel
  have hjoins : (Sheet.read? ".a > .b::before\x7b\x7d".toList).all
      (·.selectors.all joinsFirst) = true := by
    decide +kernel
  obtain ⟨sheet, hread, hwrite, -, hrequires⟩ := scope?_requires_at_origin hscope
  rw [hread, Option.all_some, List.all_eq_true] at hjoins
  exact ⟨sheet, hread, hwrite, fun s hs => (hrequires s hs).2 (hjoins s hs)⟩

/-- **After a part the attribute is not at its host**: it comes after the pseudo-element. -/
theorem not_requires_at_origin_part :
    scope? "z1".toList ".a::part(x)\x7b\x7d".toList =
      some ".a::part(x)[data-scope-z1] \x7b\n\x7d\n".toList ∧
    ∃ sheet, Sheet.read? ".a::part(x)\x7b\x7d".toList = some sheet ∧
      ∃ s ∈ sheet.selectors, (subject s).any Component.isPseudoElement = true ∧
        ¬ RequiresAtOrigin (Markup.scopeAttribute "z1".toList) s := by
  refine ⟨by decide +kernel, ?_⟩
  have hany : (Sheet.read? ".a::part(x)\x7b\x7d".toList).any (·.selectors.any fun s =>
      (subject s).any Component.isPseudoElement && !joinsFirst s) = true := by
    decide +kernel
  obtain ⟨sheet, hread, hsheet⟩ := (Option.any_eq_true _ _).1 hany
  obtain ⟨s, hs, htest⟩ := List.any_eq_true.1 hsheet
  rw [Bool.and_eq_true, Bool.not_eq_true'] at htest
  refine ⟨sheet, hread, s, hs, htest.1, fun h => ?_⟩
  rw [requiresAtOrigin_iff, htest.2] at h
  cases h

end OneFile.Style
