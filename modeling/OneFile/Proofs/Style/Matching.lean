import Mathlib.Logic.Relation
import OneFile.Markup.Scope
import OneFile.Proofs.Style.Storage

/-!
# What scoped selectors match

A selector says which elements, or which pseudo-elements of them, a style rule applies to. Scoping
it leaves just those of them whose element has the attribute.

## Main definitions

* `OneFile.Style.Target` — what a selector is matched against.
* `OneFile.Style.Interpretation` — a tree of elements, and what simple selectors say about it.
* `OneFile.Style.Interpretation.Matches` — when a stored selector matches.

## Main results

* `OneFile.Style.Interpretation.matches_insert` — what an attribute before the first boundary asks.
* `OneFile.Style.Interpretation.matches_visit` — scoping narrows a selector by its attribute.

## Design

Matching follows the order of storage: a compound is tested where matching has arrived, and a
combinator leads on to what stands to its left. Simple selectors mean whatever an interpretation
says, except that the presence of an attribute on an element means that the element carries it.
Of the tree only the way from an element to its parent and to the sibling before it is used.
-/

namespace OneFile.Style

open Selector

/-- What a selector is matched against: an element, or a pseudo-element of it. -/
structure Target (E P : Type*) where
  element : E
  /-- The pseudo-elements that lead to the target, innermost first; none for the element. -/
  pseudos : List P

/-- **An interpretation of selectors**: elements in a tree, the attributes they carry, and what
components say about targets. How a shadow tree is related to what is around it is left open. -/
structure Interpretation (E P : Type*) where
  parent : E → Option E
  /-- The sibling before an element. -/
  previous : E → Option E
  carries : E → Text → Prop
  simple : Component → Target E P → Prop
  shadow : Combinator → Target E P → Target E P → Prop
  simple_presence : ∀ attr e, simple (presence attr) ⟨e, []⟩ ↔ carries e attr

/-- Whether a combinator relates elements of one tree, or a pseudo-element to its element. -/
def Combinator.inTree : Combinator → Bool
  | .descendant | .child | .nextSibling | .laterSibling | .pseudoElement => true
  | .part | .slotAssignment => false

/-- **A selector within one tree**: none of its combinators leads into or out of a shadow tree. -/
def Selector.InTree (s : Selector) : Prop :=
  ∀ c ∈ s, ∀ k, c.combinator? = some k → k.inTree = true

namespace Interpretation

variable {E P : Type*} (M : Interpretation E P)

/-- **How a combinator leads on**, from what is to its right to what is to its left: from an
element to one above or before it, or from a pseudo-element to what it belongs to. -/
def Related : Combinator → Target E P → Target E P → Prop
  | .descendant, t, t' => t.pseudos = [] ∧ t'.pseudos = [] ∧
      Relation.TransGen (fun e e' => M.parent e = some e') t.element t'.element
  | .child, t, t' => t.pseudos = [] ∧ t'.pseudos = [] ∧ M.parent t.element = some t'.element
  | .nextSibling, t, t' => t.pseudos = [] ∧ t'.pseudos = [] ∧
      M.previous t.element = some t'.element
  | .laterSibling, t, t' => t.pseudos = [] ∧ t'.pseudos = [] ∧
      Relation.TransGen (fun e e' => M.previous e = some e') t.element t'.element
  | .pseudoElement, t, t' => t'.element = t.element ∧ ∃ p, t.pseudos = p :: t'.pseudos
  | .part, t, t' => M.shadow .part t t'
  | .slotAssignment, t, t' => M.shadow .slotAssignment t t'

/-- **When a stored selector matches.** Each component has to hold where matching has arrived, and
a combinator leads on to some target that the rest matches. The first compound from the left is
about an element. -/
def Matches : Selector → Target E P → Prop
  | [], t => t.pseudos = []
  | c :: s, t =>
    match c.combinator? with
    | some k => ∃ t', M.Related k t t' ∧ Matches s t'
    | none => M.simple c t ∧ Matches s t

/-- A simple component asks for itself and leaves matching where it is. -/
lemma matches_simple {c : Component} (hc : c.combinator? = none) (s : Selector)
    (t : Target E P) : M.Matches (c :: s) t ↔ M.simple c t ∧ M.Matches s t := by
  rw [Matches, hc]

/-- A combinator leads on. -/
lemma matches_combinator {c : Component} {k : Combinator} (hc : c.combinator? = some k)
    (s : Selector) (t : Target E P) :
    M.Matches (c :: s) t ↔ ∃ t', M.Related k t t' ∧ M.Matches s t' := by
  rw [Matches, hc]

variable {M}

/-- A combinator between two elements leads on from elements only. -/
lemma Related.pseudos_eq_nil {k : Combinator} {t t' : Target E P} (h : M.Related k t t')
    (htree : k.inTree = true) (hk : k ≠ .pseudoElement) : t.pseudos = [] := by
  cases k with
  | descendant => exact h.1
  | child => exact h.1
  | nextSibling => exact h.1
  | laterSibling => exact h.1
  | pseudoElement => exact absurd rfl hk
  | part => simp [Combinator.inTree] at htree
  | slotAssignment => simp [Combinator.inTree] at htree

/-- Where nothing or a boundary comes next, an attribute is asked of an element: the one that
matching has arrived at. -/
lemma matches_presence {attr : Text} {s : Selector} {t : Target E P}
    (hnil : M.Matches s t → t.pseudos = []) :
    M.Matches (presence attr :: s) t ↔ M.Matches s t ∧ M.carries t.element attr := by
  rw [matches_simple M rfl, and_comm]
  refine and_congr_right fun h => ?_
  obtain ⟨e, pseudos⟩ := t
  obtain rfl : pseudos = [] := hnil h
  exact M.simple_presence attr e

/-- **What an attribute before the first boundary asks**: that the element of the target carries it.

**Proof sketch.** Induction on the stored components. Before the first boundary matching stays
at one element: components leave it where it is, and from a pseudo-element it goes on to the element
itself or to another pseudo-element of it. -/
theorem matches_insert (attr : Text) {s : Selector} (hs : s.InTree) (t : Target E P) :
    M.Matches (s.takeWhile (!isBoundary ·) ++ presence attr :: s.dropWhile (!isBoundary ·)) t ↔
      M.Matches s t ∧ M.carries t.element attr := by
  induction s generalizing t with
  | nil => exact matches_presence id
  | cons c s ih =>
    have htail : InTree s := fun d hd => hs d (List.mem_cons_of_mem _ hd)
    by_cases hc : isBoundary c = true
    · obtain ⟨k, hk⟩ : ∃ k, c.combinator? = some k := by
        simp only [isBoundary, Bool.and_eq_true] at hc
        exact Option.isSome_iff_exists.1 hc.1
      have hne : k ≠ .pseudoElement := by
        rintro rfl
        simp [isBoundary, isElementMark, hk] at hc
      rw [List.takeWhile_cons_of_neg (by simp [hc]), List.dropWhile_cons_of_neg (by simp [hc]),
        List.nil_append]
      refine matches_presence fun h => ?_
      obtain ⟨t', hrelated, -⟩ := (matches_combinator M hk s t).1 h
      exact hrelated.pseudos_eq_nil (hs c (by simp) k hk) hne
    · rw [List.takeWhile_cons_of_pos (by simp [hc]), List.dropWhile_cons_of_pos (by simp [hc]),
        List.cons_append]
      cases hk : c.combinator? with
      | none =>
        rw [matches_simple M hk, matches_simple M hk, ih htail, and_assoc]
      | some k =>
        obtain rfl : k = .pseudoElement := by
          simpa [isBoundary, isElementMark, hk] using hc
        rw [matches_combinator M hk, matches_combinator M hk]
        constructor
        · rintro ⟨t', hrelated, hmatches⟩
          obtain ⟨hrest, hcarries⟩ := (ih htail t').1 hmatches
          rw [hrelated.1] at hcarries
          exact ⟨⟨t', hrelated, hrest⟩, hcarries⟩
        · rintro ⟨⟨t', hrelated, hrest⟩, hcarries⟩
          rw [← hrelated.1] at hcarries
          exact ⟨t', hrelated, (ih htail t').2 ⟨hrest, hcarries⟩⟩

/-- What style sheets are written with: a selector that is scoped from left to right. -/
lemma matches_store_scope (attr : Text) {s : Selector} (hs : s.InTree) (t : Target E P) :
    M.Matches (store (scope attr s)) t ↔ M.Matches (store s) t ∧ M.carries t.element attr := by
  have hstored : InTree (store s) := by
    intro c hc
    rw [store_eq_parseOrder, mem_parseOrder] at hc
    exact hs c hc
  rw [← visit_store, visit_eq_insert]
  exact matches_insert attr hstored t

/-- **Scoping narrows a selector by its attribute.** In every tree, and whatever its components
mean there, a scoped selector matches an element, or a pseudo-element of it, exactly when the
selector itself does and the element carries the attribute. -/
theorem matches_visit (M : Interpretation E P) (id : Text) {stored : Selector}
    (h : stored.InTree) (t : Target E P) :
    M.Matches (visit (Markup.scopeAttribute id) stored) t ↔
      M.Matches stored t ∧ M.carries t.element (Markup.scopeAttribute id) := by
  rw [visit_eq_insert]
  exact matches_insert _ h t

/-! ### A tree of two elements -/

/-- A tree of an element `a` with a child `b`, which carries a scope attribute. Both have
pseudo-elements of any name, about which only their names are said. -/
def parentAndChild : Interpretation Bool Text where
  parent e := if e then some false else none
  previous _ := none
  carries e attr := e = true ∧ attr = Markup.scopeAttribute "x".toList
  simple c t :=
    match c with
    | .tag name => t.pseudos = [] ∧ name = if t.element then "b".toList else "a".toList
    | .pseudoElement name => t.pseudos = [name]
    | .attribute none attr none => t.element = true ∧ attr = Markup.scopeAttribute "x".toList
    | _ => False
  shadow _ _ _ := False
  simple_presence _ _ := Iff.rfl

/-- A pseudo-element of the child is still matched when a selector with a child combinator and a
pseudo-element is scoped. -/
theorem matches_visit_parentAndChild :
    parentAndChild.Matches (visit (Markup.scopeAttribute "x".toList)
      [.pseudoElement "before".toList, .combinator .pseudoElement, .tag "b".toList,
        .combinator .child, .tag "a".toList]) ⟨true, ["before".toList]⟩ := by
  have htree : InTree [.pseudoElement "before".toList, .combinator .pseudoElement,
      .tag "b".toList, .combinator .child, .tag "a".toList] := by
    intro c hc k hk
    simp only [List.mem_cons, List.not_mem_nil, or_false] at hc
    rcases hc with rfl | rfl | rfl | rfl | rfl
    all_goals cases hk
    all_goals rfl
  refine (matches_visit parentAndChild "x".toList htree _).2 ⟨?_, rfl, rfl⟩
  exact ⟨rfl, ⟨true, []⟩, ⟨rfl, _, rfl⟩, ⟨rfl, rfl⟩, ⟨false, []⟩, ⟨rfl, rfl, rfl⟩, ⟨rfl, rfl⟩, rfl⟩

end Interpretation

end OneFile.Style
