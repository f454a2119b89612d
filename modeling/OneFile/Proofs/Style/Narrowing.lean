import Mathlib.Data.List.Forall2
import OneFile.Proofs.Style.PseudoElements

/-!
# What scoping a style sheet leaves alone

A scoped style sheet is the style sheet that was read, but for one component in each selector. Rules
are not reordered, dropped or doubled, declarations are the same, and no selector is touched within
its functional pseudo-classes. Selectors are those of style rules, and those that limit the part of
a document that an `@scope` rule is about.

## Main definitions

* `OneFile.Style.Selector.Gains` — a selector that has one component more, at the end of a compound.
* `OneFile.Style.Rule.Alike` — rules that differ in their selectors only, and there as told.
* `OneFile.Style.Selector.unscope`, `OneFile.Style.Sheet.unscope` — without the component that
  scoping adds.
* `OneFile.Style.Selector.Narrowed` — a selector and what scoping makes of it.
* `OneFile.Style.Rule.mapStyleSelectors` — a change of the selectors of style rules only.

## Main results

* `OneFile.Style.Selector.gains_insert` — what is inserted before a combinator ends a compound.
* `OneFile.Style.Rule.alike_mapSelectors` — a change of selectors changes nothing else.
* `OneFile.Style.scope?_narrows` — a scoped style sheet differs by one component for each selector.
* `OneFile.Style.not_unscope_styleRules` — not only the selectors of style rules are scoped.

## Design

Taking the component out again goes by its place and not by its name, as an author may have asked
for the same attribute.
-/

namespace OneFile.Style

namespace Selector

/-! ### One component more -/

/-- **A selector gains a component**: it is inserted somewhere, the combinators stay as they are,
and so do the compounds but for one, which ends in it. -/
structure Gains (new : Component) (s s' : Selector) : Prop where
  inserted : ∃ before after, s = before ++ after ∧ s' = before ++ new :: after
  combinators : combinatorsOf s' = combinatorsOf s
  compounds : ∃ ks k ks', compoundsOf s = ks ++ k :: ks' ∧
    compoundsOf s' = ks ++ (k ++ [new]) :: ks'

/-- A combinator parts the compounds before it from those after it. -/
lemma compoundsOf_append_cons {c : Component} (hc : isCombinator c = true) (s t : Selector) :
    compoundsOf (s ++ c :: t) = compoundsOf s ++ compoundsOf t :=
  List.splitOnP_append_cons s t hc

/-- A component that is no combinator, put behind a selector, goes to its last compound. -/
lemma compoundsOf_concat {new : Component} (hnew : isCombinator new = false) (s : Selector) :
    ∃ ks k, compoundsOf s = ks ++ [k] ∧ compoundsOf (s ++ [new]) = ks ++ [k ++ [new]] := by
  induction s using compoundInduction with
  | compound k hk =>
    exact ⟨[], k, List.splitOnP_eq_singleton hk, List.splitOnP_eq_singleton (hk.concat hnew)⟩
  | combinator k c s hk hc ih =>
    obtain ⟨ks, last, hs, hsnew⟩ := ih
    refine ⟨compoundsOf k ++ ks, last, ?_, ?_⟩
    · rw [compoundsOf_append_cons hc, hs, List.append_assoc]
    · rw [List.append_assoc, List.cons_append, compoundsOf_append_cons hc, hsnew,
        List.append_assoc]

/-- **What is inserted before a combinator, or at the end, ends a compound** and changes no other
one. -/
theorem gains_insert {new : Component} (hnew : isCombinator new = false) (before : Selector)
    {after : Selector} (hafter : ∀ c ∈ after.head?, isCombinator c = true) :
    Gains new (before ++ after) (before ++ new :: after) := by
  refine ⟨⟨before, after, rfl, rfl⟩, by simp [combinatorsOf, hnew], ?_⟩
  obtain ⟨ks, k, hbefore, hbeforenew⟩ := compoundsOf_concat hnew before
  cases after with
  | nil => exact ⟨ks, k, [], by simpa using hbefore, hbeforenew⟩
  | cons c after =>
    have hc := hafter c rfl
    have hcons : before ++ new :: c :: after = (before ++ [new]) ++ c :: after := by simp
    refine ⟨ks, k, compoundsOf after, ?_, ?_⟩
    · rw [compoundsOf_append_cons hc, hbefore, List.append_assoc, List.singleton_append]
    · rw [hcons, compoundsOf_append_cons hc, hbeforenew, List.append_assoc, List.singleton_append]

/-! ### What scoping a selector adds -/

/-- The last combinator between two elements comes before a subject, if there is one. -/
lemma exists_isSubject (s : Selector) :
    IsSubject s ∨ ∃ u c t, s = u ++ c :: t ∧ isBoundary c = true ∧ IsSubject t := by
  induction s with
  | nil => exact .inl (by simp [IsSubject])
  | cons c s ih =>
    rcases ih with hs | ⟨u, d, t, rfl, hd, ht⟩
    · cases hc : isBoundary c with
      | false => exact .inl (List.forall_mem_cons.2 ⟨hc, hs⟩)
      | true => exact .inr ⟨[], c, s, rfl, hc, hs⟩
    · exact .inr ⟨c :: u, d, t, rfl, hd, ht⟩

/-- In a selector without combinators between two elements, the subject ends before the first
pseudo-element. -/
lemma subjectEnd_of_isSubject {s : Selector} (hs : IsSubject s) :
    subjectEnd s = (s.takeWhile (!isElementMark ·)).length := by
  simp [subjectEnd, splitSubject_of_isSubject hs]

/-- In a selector without combinators between two elements the attribute is inserted before the
first combinator of a pseudo-element, or at the end. -/
lemma exists_scope_eq_of_isSubject (attr : Text) {s : Selector} (hs : IsSubject s) :
    ∃ before after, s = before ++ after ∧ scope attr s = before ++ presence attr :: after ∧
      (∀ c ∈ after.head?, isElementMark c = true) ∧
      subjectEnd (scope attr s) = before.length + 1 := by
  have hscope := scope_of_isSubject attr hs
  have hafter := List.head?_dropWhile_not (!isElementMark ·) s
  have hcut := List.takeWhile_append_dropWhile (p := (!isElementMark ·)) (l := s)
  have hbefore : ∀ c ∈ s.takeWhile (!isElementMark ·), (!isElementMark c) = true :=
    fun c hc => List.mem_takeWhile_imp (p := (!isElementMark ·)) hc
  generalize s.takeWhile (!isElementMark ·) = before at hscope hcut hbefore
  generalize s.dropWhile (!isElementMark ·) = after at hscope hafter hcut
  have hmark : ∀ c ∈ after.head?, isElementMark c = true := by
    intro c hc
    rw [Option.mem_def] at hc
    simpa [hc] using hafter
  have hscoped : IsSubject (before ++ presence attr :: after) := by
    intro c hc
    rw [List.mem_append, List.mem_cons] at hc
    rcases hc with hc | rfl | hc
    · exact hs c (hcut ▸ List.mem_append_left _ hc)
    · rfl
    · exact hs c (hcut ▸ List.mem_append_right _ hc)
  have hnone : after.takeWhile (!isElementMark ·) = [] := by
    cases after with
    | nil => rfl
    | cons c after => simp [hmark c rfl]
  have hpresence : (!isElementMark (presence attr)) = true := rfl
  refine ⟨before, after, hcut.symm, hscope, hmark, ?_⟩
  rw [hscope, subjectEnd_of_isSubject hscoped, List.takeWhile_append_of_pos hbefore,
    List.takeWhile_cons_of_pos (p := (!isElementMark ·)) hpresence, hnone, List.length_append,
    List.length_singleton]

/-- **Scoping inserts one component**, before the combinator of a pseudo-element or at the end. The
subject of the outcome ends in it. -/
lemma exists_scope_eq (attr : Text) (s : Selector) : ∃ before after, s = before ++ after ∧
    scope attr s = before ++ presence attr :: after ∧
    (∀ c ∈ after.head?, isElementMark c = true) ∧
    subjectEnd (scope attr s) = before.length + 1 := by
  rcases exists_isSubject s with hs | ⟨u, c, t, rfl, hc, ht⟩
  · exact exists_scope_eq_of_isSubject attr hs
  · obtain ⟨before, after, rfl, hscope, hmark, hend⟩ := exists_scope_eq_of_isSubject attr ht
    refine ⟨u ++ c :: before, after, by simp, ?_, hmark, ?_⟩
    · rw [scope_append attr hc, hscope]
      simp
    · rw [scope_append attr hc, subjectEnd_append hc, hend]
      simp only [List.length_append, List.length_cons, List.length_nil]
      omega

/-- **The selector without the last component of its subject**, which is the one that scoping adds.
What comes after a pseudo-element's combinator does not count as subject. -/
def unscope (s : Selector) : Selector := s.eraseIdx (subjectEnd s - 1)

/-- Taking the added component out again leaves the selector. -/
lemma unscope_scope (attr : Text) (s : Selector) : unscope (scope attr s) = s := by
  obtain ⟨before, after, hs, hscope, -, hend⟩ := exists_scope_eq attr s
  rw [unscope, hend, Nat.add_sub_cancel, hscope, hs,
    List.eraseIdx_append_of_length_le (Nat.le_refl _), Nat.sub_self, List.eraseIdx_cons_zero]

/-- **A selector and what scoping makes of it**: a compound of it gains the attribute, and as it is
stored, with the last compound first, the same is done to it there. -/
structure Narrowed (attr : Text) (s s' : Selector) : Prop where
  gains : Gains (presence attr) s s'
  gains_stored : Gains (presence attr) (store s) (store s')
  visit_eq : store s' = visit attr (store s)

/-- In storage the attribute is inserted before a combinator, too, or at the end. -/
lemma gains_visit (attr : Text) (stored : Selector) :
    Gains (presence attr) stored (visit attr stored) := by
  have hafter := List.head?_dropWhile_not (!isBoundary ·) stored
  have hcut := List.takeWhile_append_dropWhile (p := (!isBoundary ·)) (l := stored)
  rw [visit_eq_insert]
  generalize stored.takeWhile (!isBoundary ·) = before at hcut ⊢
  generalize stored.dropWhile (!isBoundary ·) = after at hafter hcut ⊢
  subst hcut
  refine gains_insert (isCombinator_presence attr) before fun c hc => ?_
  have hboundary : isBoundary c = true := by
    rw [Option.mem_def] at hc
    simpa [hc] using hafter
  simp only [isBoundary, Bool.and_eq_true] at hboundary
  exact hboundary.1

/-- **Scoping narrows each selector.** -/
theorem narrowed_scope (attr : Text) (s : Selector) : Narrowed attr s (scope attr s) := by
  refine ⟨?_, ?_, (visit_store attr s).symm⟩
  · obtain ⟨before, after, hs, hscope, hmark, -⟩ := exists_scope_eq attr s
    rw [hscope, hs]
    exact gains_insert (isCombinator_presence attr) before
      fun c hc => isCombinator_iff.2 (.inr (.inr (hmark c hc)))
  · rw [← visit_store]
    exact gains_visit attr (store s)

end Selector

/-! ### Rules that differ in their selectors -/

open Selector

/-- **Heads that differ in their selectors only**, each of which is related to the one in its
place. -/
inductive Head.Alike (R : Selector → Selector → Prop) : Head → Head → Prop
  | style {ss ss' : List Selector} (h : List.Forall₂ R ss ss') : Alike R (.style ss) (.style ss')
  | nest {ss ss' : List Selector} (h : List.Forall₂ R ss ss') : Alike R (.nest ss) (.nest ss')
  | scope {start start' stop stop' : Option (List Selector)}
      (hstart : Option.Rel (List.Forall₂ R) start start')
      (hstop : Option.Rel (List.Forall₂ R) stop stop') :
      Alike R (.scope start stop) (.scope start' stop')
  | media (queries : List MediaQuery) : Alike R (.media queries) (.media queries)
  | support (condition : Support) : Alike R (.support condition) (.support condition)
  | layer (name : Option LayerName) : Alike R (.layer name) (.layer name)
  | container (query : ContainerQuery) : Alike R (.container query) (.container query)
  | startingStyle : Alike R .startingStyle .startingStyle
  | document : Alike R .document .document

/-- **Rules that differ in their selectors only**: the same declarations, the same statements, with
keyframes and pages among them, and alike rules in alike rules, in the same order. -/
inductive Rule.Alike (R : Selector → Selector → Prop) : Rule → Rule → Prop
  | declarations (ds : List Declaration) : Alike R (.declarations ds) (.declarations ds)
  | block {head head' : Head} {body body' : List Rule} (hhead : head.Alike R head')
      (hbody : List.Forall₂ (Alike R) body body') : Alike R (.block head body) (.block head' body')
  | statement (s : Statement) : Alike R (.statement s) (.statement s)

variable {R : Selector → Selector → Prop} {f g : Selector → Selector}

/-- Selectors that are changed one by one are related to what they were. -/
lemma forall₂_map (hf : ∀ s, R s (f s)) (ss : List Selector) : List.Forall₂ R ss (ss.map f) :=
  List.forall₂_map_right_iff.2 (List.forall₂_same.2 fun s _ => hf s)

/-- A change of selectors changes nothing else in a head. -/
lemma Head.alike_mapSelectors (hf : ∀ s, R s (f s)) (head : Head) :
    head.Alike R (head.mapSelectors f) := by
  have hlimit : ∀ limit : Option (List Selector),
      Option.Rel (List.Forall₂ R) limit (limit.map (List.map f)) := by
    intro limit
    cases limit with
    | none => exact .none
    | some ss => exact .some (forall₂_map hf ss)
  cases head with
  | style ss => exact .style (forall₂_map hf ss)
  | nest ss => exact .nest (forall₂_map hf ss)
  | scope start stop => exact .scope (hlimit start) (hlimit stop)
  | media queries => exact .media queries
  | support condition => exact .support condition
  | layer name => exact .layer name
  | container query => exact .container query
  | startingStyle => exact .startingStyle
  | document => exact .document

namespace Rule

mutual

/-- A rule whose selectors are changed is alike. -/
lemma alike_mapSelectors (hf : ∀ s, R s (f s)) (r : Rule) : r.Alike R (r.mapSelectors f) := by
  cases r with
  | declarations ds => exact .declarations ds
  | block head body =>
    exact .block (head.alike_mapSelectors hf) (forall₂_mapAllSelectors hf body)
  | statement st => exact .statement st

/-- **A change of selectors changes nothing else.** -/
theorem forall₂_mapAllSelectors (hf : ∀ s, R s (f s)) (rs : List Rule) :
    List.Forall₂ (Alike R) rs (mapAllSelectors f rs) := by
  cases rs with
  | nil => exact .nil
  | cons r rs => exact .cons (alike_mapSelectors hf r) (forall₂_mapAllSelectors hf rs)

end

end Rule

/-! ### Changes of selectors, one after the other -/

/-- Two changes of the selectors of a head are one. -/
lemma Head.mapSelectors_mapSelectors (head : Head) :
    (head.mapSelectors f).mapSelectors g = head.mapSelectors (g ∘ f) := by
  cases head with
  | scope start stop => cases start <;> cases stop <;> simp [Head.mapSelectors]
  | style | nest => simp [Head.mapSelectors]
  | media | support | layer | container | startingStyle | document => rfl

/-- No change of selectors leaves a head as it is. -/
lemma Head.mapSelectors_id (head : Head) : head.mapSelectors id = head := by
  cases head with
  | scope start stop => cases start <;> cases stop <;> simp [Head.mapSelectors]
  | style | nest => simp [Head.mapSelectors]
  | media | support | layer | container | startingStyle | document => rfl

namespace Rule

mutual

/-- Changing selectors twice is changing them by both changes. -/
lemma mapSelectors_mapSelectors (r : Rule) :
    (r.mapSelectors f).mapSelectors g = r.mapSelectors (g ∘ f) := by
  cases r with
  | block head body =>
    simp only [mapSelectors, Head.mapSelectors_mapSelectors, mapAllSelectors_mapAllSelectors body]
  | declarations ds => rfl
  | statement st => rfl

/-- Two changes of the selectors of rules are one. -/
lemma mapAllSelectors_mapAllSelectors (rs : List Rule) :
    mapAllSelectors g (mapAllSelectors f rs) = mapAllSelectors (g ∘ f) rs := by
  cases rs with
  | nil => rfl
  | cons r rs =>
    simp only [mapAllSelectors, mapSelectors_mapSelectors r, mapAllSelectors_mapAllSelectors rs]

end

mutual

/-- A rule stays as it is if nothing is done to its selectors. -/
lemma mapSelectors_id (r : Rule) : r.mapSelectors id = r := by
  cases r with
  | block head body => simp only [mapSelectors, Head.mapSelectors_id, mapAllSelectors_id body]
  | declarations ds => rfl
  | statement st => rfl

/-- No change of selectors leaves rules as they are. -/
lemma mapAllSelectors_id (rs : List Rule) : mapAllSelectors id rs = rs := by
  cases rs with
  | nil => rfl
  | cons r rs => simp only [mapAllSelectors, mapSelectors_id r, mapAllSelectors_id rs]

end

end Rule

/-! ### Style sheets -/

namespace Sheet

/-- The style sheet with `f` applied to all its selectors. -/
def mapSelectors (f : Selector → Selector) (sheet : Sheet) : Sheet :=
  ⟨sheet.comments, Rule.mapAllSelectors f sheet.rules⟩

/-- Two changes of the selectors of a style sheet are one. -/
lemma mapSelectors_mapSelectors (sheet : Sheet) :
    (sheet.mapSelectors f).mapSelectors g = sheet.mapSelectors (g ∘ f) := by
  simp only [mapSelectors, Rule.mapAllSelectors_mapAllSelectors]

/-- **Taking the added components out again leaves the style sheet.** -/
lemma mapSelectors_unscope_scope (attr : Text) (sheet : Sheet) :
    (sheet.scope attr).mapSelectors unscope = sheet := by
  have hscope : sheet.scope attr = sheet.mapSelectors (Selector.scope attr) := rfl
  have hundo : unscope ∘ Selector.scope attr = id := funext (unscope_scope attr)
  rw [hscope, mapSelectors_mapSelectors, hundo, mapSelectors, Rule.mapAllSelectors_id]

/-- **Scoping a style sheet is scoping its stored selectors.** -/
lemma mapSelectors_store_scope (attr : Text) (sheet : Sheet) :
    (sheet.scope attr).mapSelectors store =
      (sheet.mapSelectors store).mapSelectors (visit attr) := by
  have hscope : sheet.scope attr = sheet.mapSelectors (Selector.scope attr) := rfl
  have hstore : store ∘ Selector.scope attr = visit attr ∘ store :=
    funext fun s => (visit_store attr s).symm
  rw [hscope, mapSelectors_mapSelectors, mapSelectors_mapSelectors, hstore]

end Sheet

/-- **Scoping changes nothing but selectors, and adds one component to each.** A style sheet that is
accepted is written as one with the same comments and with the same rules in the same order, the
selectors of which are narrowed: those of style rules at any depth, and those that limit the part of
a document. In storage each of them is visited once. Without the components that were added it is
the style sheet that was read. -/
theorem scope?_narrows {id css out : Text} (h : scope? id css = some out) :
    ∃ sheet narrowed : Sheet, Sheet.read? css = some sheet ∧ out = narrowed.write ∧
      narrowed.comments = sheet.comments ∧
      List.Forall₂ (Rule.Alike (Narrowed (Markup.scopeAttribute id))) sheet.rules narrowed.rules ∧
      narrowed.mapSelectors store =
        (sheet.mapSelectors store).mapSelectors (visit (Markup.scopeAttribute id)) ∧
      narrowed.mapSelectors unscope = sheet := by
  obtain ⟨sheet, hread, rfl⟩ := Option.map_eq_some_iff.1 h
  exact ⟨sheet, sheet.scope (Markup.scopeAttribute id), hread, rfl, rfl,
    Rule.forall₂_mapAllSelectors (narrowed_scope _) sheet.rules,
    Sheet.mapSelectors_store_scope _ _, Sheet.mapSelectors_unscope_scope _ _⟩

/-! ### Nested rules -/

/-- A style sheet with a style rule within a media rule, one within another style rule, a functional
pseudo-class with a selector of its own, and keyframes. -/
def nestedRules : Text :=
  "@media print\x7b.a>.b::before\x7b\x7d\x7d".toList ++
    ".c:not(.d)\x7b&>p\x7b\x7d\x7d".toList ++ "@keyframes k\x7bfrom\x7b\x7d\x7d".toList

/-- The style sheet for a component. -/
def nestedRulesNarrowed : Text :=
  "@media print \x7b\n  .a > .b[data-scope-z1]:before \x7b\n  \x7d\n\x7d\n\n".toList ++
    ".c:not(.d)[data-scope-z1] \x7b\n  & > p[data-scope-z1] \x7b\n  \x7d\n\x7d\n\n".toList ++
    "@keyframes k \x7b\n  from \x7b\n  \x7d\n\x7d\n".toList

/-- The style sheet of nested rules differs by its narrowed selectors. -/
theorem scope?_narrows_nestedRules :
    scope? "z1".toList nestedRules = some nestedRulesNarrowed ∧
    ∃ sheet narrowed : Sheet, Sheet.read? nestedRules = some sheet ∧
      nestedRulesNarrowed = narrowed.write ∧
      List.Forall₂ (Rule.Alike (Narrowed (Markup.scopeAttribute "z1".toList))) sheet.rules
        narrowed.rules ∧
      narrowed.mapSelectors unscope = sheet := by
  have hscope : scope? "z1".toList nestedRules = some nestedRulesNarrowed := by decide +kernel
  obtain ⟨sheet, narrowed, hread, hwrite, -, halike, -, hundo⟩ := scope?_narrows hscope
  exact ⟨hscope, sheet, narrowed, hread, hwrite, halike, hundo⟩

/-! ### Rules about a part of a document -/

/-- The head with `f` applied to its selectors, if it is that of a style rule. -/
def Head.mapStyleSelectors (f : Selector → Selector) : Head → Head
  | style selectors => style (selectors.map f)
  | nest selectors => nest (selectors.map f)
  | head => head

namespace Rule

mutual

/-- The rule with `f` applied to the selectors of all style rules in it. -/
def mapStyleSelectors (f : Selector → Selector) : Rule → Rule
  | block head body => block (head.mapStyleSelectors f) (mapAllStyleSelectors f body)
  | r => r

/-- The rules with `f` applied to the selectors of all style rules in them. -/
def mapAllStyleSelectors (f : Selector → Selector) : List Rule → List Rule
  | [] => []
  | r :: rs => r.mapStyleSelectors f :: mapAllStyleSelectors f rs

end

end Rule

/-- **Not only the selectors of style rules are scoped.** In a rule about a part of a document, what
limits that part is scoped as well: taking the added components out of the style rules does not give
back what was read. -/
theorem not_unscope_styleRules :
    scope? "z1".toList "@scope (.a)\x7b.b\x7b\x7d\x7d".toList =
      some "@scope (.a[data-scope-z1]) \x7b\n  .b[data-scope-z1] \x7b\n  \x7d\n\x7d\n".toList ∧
    ∃ sheet, Sheet.read? "@scope (.a)\x7b.b\x7b\x7d\x7d".toList = some sheet ∧
      Rule.mapAllStyleSelectors unscope (sheet.scope (Markup.scopeAttribute "z1".toList)).rules ≠
        sheet.rules := by
  refine ⟨by decide +kernel, ?_⟩
  -- equality of rules is not decided, so lengths of selectors are compared
  have hlengths : (Sheet.read? "@scope (.a)\x7b.b\x7b\x7d\x7d".toList).any (fun sheet =>
      (Rule.selectorsAll (Rule.mapAllStyleSelectors unscope
        (sheet.scope (Markup.scopeAttribute "z1".toList)).rules)).map List.length !=
          (Rule.selectorsAll sheet.rules).map List.length) = true := by
    decide +kernel
  obtain ⟨sheet, hread, hne⟩ := (Option.any_eq_true _ _).1 hlengths
  refine ⟨sheet, hread, fun heq => ?_⟩
  rw [heq] at hne
  simp at hne

end OneFile.Style
