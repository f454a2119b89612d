import Mathlib.Data.List.TakeWhile
import Mathlib.Tactic.Common
import OneFile.Style.Selector.Scope

/-!
# The order in which selectors are stored

Matching starts at the subject of a selector and goes on to what stands to its left. So a selector
is stored with its last compound first, while the components of each compound keep their order.
Scoping takes a stored selector apart, inserts its attribute, and stores the outcome again.

## Main definitions

* `OneFile.Style.Selector.parseOrder` — the components of a stored selector from left to right.
* `OneFile.Style.Selector.store` — components from left to right, stored.
* `OneFile.Style.Selector.visit` — scoping a stored selector.

## Main results

* `OneFile.Style.Selector.parseOrder_append_cons` — a combinator changes sides with its neighbours.
* `OneFile.Style.Selector.store_parseOrder` — storing undoes taking apart.
* `OneFile.Style.Selector.visit_eq_insert` — scoping inserts before the first boundary in storage.

## Design

Taking apart is written with the lists of compounds and of combinators, storing with one pass over
the components. Both do the same to a combinator and what is on its two sides, so selectors are
reasoned about by induction on their combinators (`OneFile.Style.Selector.compoundInduction`).
-/

namespace OneFile.Style.Selector

/-! ### Compounds and combinators -/

/-- Whether a component is a combinator. -/
def isCombinator (c : Component) : Bool := c.combinator?.isSome

/-- A compound: components without combinators. -/
def IsCompound (k : List Component) : Prop := ∀ c ∈ k, isCombinator c = false

/-- A compound goes on with a component that is no combinator. -/
lemma IsCompound.concat {k : List Component} (hk : IsCompound k) {c : Component}
    (hc : isCombinator c = false) : IsCompound (k ++ [c]) := by
  intro d hd
  rcases List.mem_append.1 hd with hd | hd
  · exact hk d hd
  · rw [List.mem_singleton.1 hd]
    exact hc

/-- The compounds of a selector, in the order of its components. -/
def compoundsOf (s : Selector) : List (List Component) := s.splitOnP isCombinator

/-- The combinators of a selector, in the order of its components. -/
def combinatorsOf (s : Selector) : List Component := s.filter isCombinator

/-- There is one compound more than there are combinators. -/
lemma length_compoundsOf (s : Selector) :
    (compoundsOf s).length = (combinatorsOf s).length + 1 := by
  induction s with
  | nil => rfl
  | cons c s ih =>
    unfold compoundsOf combinatorsOf at ih ⊢
    rw [List.splitOnP_cons_eq_if_modifyHead, List.filter_cons]
    split_ifs with hc
    · rw [List.length_cons, ih, List.length_cons]
    · rw [List.length_modifyHead, ih]

/-- **Induction on combinators**: a selector is a compound, or a compound and a combinator before
a selector.

**Proof sketch.** Induction on the components, with a compound before them that has been passed
already. -/
theorem compoundInduction {motive : Selector → Prop}
    (compound : ∀ k, IsCompound k → motive k)
    (combinator : ∀ k c s, IsCompound k → isCombinator c = true → motive s → motive (k ++ c :: s))
    (s : Selector) : motive s := by
  suffices h : ∀ k, IsCompound k → motive (k ++ s) by
    exact h [] (by simp [IsCompound])
  induction s with
  | nil =>
    intro k hk
    rw [List.append_nil]
    exact compound k hk
  | cons c s ih =>
    intro k hk
    by_cases hc : isCombinator c = true
    · exact combinator k c s hk hc (ih [] (by simp [IsCompound]))
    · simpa using ih (k ++ [c]) (hk.concat (Bool.eq_false_iff.2 hc))

/-! ### Taking apart -/

/-- Compounds with combinators between them. -/
def interleave : List (List Component) → List Component → Selector
  | [], _ => []
  | k :: ks, [] => k ++ interleave ks []
  | k :: ks, c :: cs => k ++ c :: interleave ks cs

/-- **The components of a stored selector from left to right**: its compounds in reverse, and its
combinators in reverse between them. -/
def parseOrder (stored : Selector) : Selector :=
  interleave (compoundsOf stored).reverse (combinatorsOf stored).reverse

/-- Compounds and combinators that fit together are interleaved on their own. -/
lemma interleave_append {ks ks' : List (List Component)} {cs cs' : List Component} {c : Component}
    (h : ks.length = cs.length + 1) :
    interleave (ks ++ ks') (cs ++ c :: cs') = interleave ks cs ++ c :: interleave ks' cs' := by
  induction ks generalizing cs with
  | nil => simp at h
  | cons k ks ih =>
    cases cs with
    | nil =>
      obtain rfl : ks = [] := by simpa using h
      simp [interleave]
    | cons d cs =>
      have hlength : ks.length = cs.length + 1 := by simpa using h
      simp [interleave, ih hlength]

/-- A compound is taken as it is. -/
lemma parseOrder_compound {k : List Component} (hk : IsCompound k) : parseOrder k = k := by
  have hcombinators : combinatorsOf k = [] :=
    List.filter_eq_nil_iff.2 (by simpa [IsCompound] using hk)
  rw [parseOrder, hcombinators, compoundsOf, List.splitOnP_eq_singleton hk]
  simp [interleave]

/-- **A combinator changes sides with its neighbours.** -/
lemma parseOrder_append_cons (s t : Selector) {c : Component} (hc : isCombinator c = true) :
    parseOrder (s ++ c :: t) = parseOrder t ++ c :: parseOrder s := by
  have hcompounds : compoundsOf (s ++ c :: t) = compoundsOf s ++ compoundsOf t :=
    List.splitOnP_append_cons s t hc
  have hcombinators : combinatorsOf (s ++ c :: t) = combinatorsOf s ++ c :: combinatorsOf t := by
    rw [combinatorsOf, List.filter_append, List.filter_cons_of_pos hc]
    rfl
  have hlength : (compoundsOf t).reverse.length = (combinatorsOf t).reverse.length + 1 := by
    rw [List.length_reverse, List.length_reverse, length_compoundsOf]
  rw [parseOrder, hcompounds, hcombinators, List.reverse_append, List.reverse_append,
    List.reverse_cons, List.append_assoc, List.singleton_append, interleave_append hlength]
  rfl

/-- Taking apart twice changes nothing. -/
lemma parseOrder_parseOrder (s : Selector) : parseOrder (parseOrder s) = s := by
  induction s using compoundInduction with
  | compound k hk => rw [parseOrder_compound hk, parseOrder_compound hk]
  | combinator k c s hk hc ih =>
    rw [parseOrder_append_cons k s hc, parseOrder_append_cons _ _ hc, ih, parseOrder_compound hk,
      parseOrder_compound hk]

/-! ### Storing -/

/-- Components from left to right, stored before what is stored already, after the components of a
compound that has been started. -/
def storeBefore (stored : Selector) (compound : List Component) : Selector → Selector
  | [] => compound ++ stored
  | c :: s =>
    if isCombinator c then storeBefore (c :: (compound ++ stored)) [] s
    else storeBefore stored (compound ++ [c]) s

/-- **Components from left to right, stored**: the last compound comes first. -/
def store (s : Selector) : Selector := storeBefore [] [] s

/-- What is stored already stays behind. -/
lemma storeBefore_eq (stored : Selector) (compound : List Component) (s : Selector) :
    storeBefore stored compound s = storeBefore [] compound s ++ stored := by
  induction s generalizing stored compound with
  | nil => simp [storeBefore]
  | cons c s ih =>
    rw [storeBefore, storeBefore]
    split_ifs with hc
    · rw [ih (c :: (compound ++ stored)), ih (c :: (compound ++ []))]
      simp
    · exact ih stored (compound ++ [c])

/-- A compound is stored as it is, after what it was started with. -/
lemma storeBefore_compound {k : List Component} (hk : IsCompound k) (stored : Selector)
    (compound : List Component) (s : Selector) :
    storeBefore stored compound (k ++ s) = storeBefore stored (compound ++ k) s := by
  induction k generalizing compound with
  | nil => simp
  | cons c k ih =>
    have hc : ¬ isCombinator c = true := by simp [hk c (by simp)]
    have hk' : IsCompound k := fun d hd => hk d (List.mem_cons_of_mem _ hd)
    rw [List.cons_append, storeBefore, if_neg hc, ih hk']
    simp

/-- **Storing does what taking apart does.** -/
theorem store_eq_parseOrder (s : Selector) : store s = parseOrder s := by
  induction s using compoundInduction with
  | compound k hk =>
    have h := storeBefore_compound hk [] [] []
    rw [List.append_nil, List.nil_append] at h
    rw [store, h, parseOrder_compound hk, storeBefore, List.append_nil]
  | combinator k c s hk hc ih =>
    rw [parseOrder_append_cons k s hc, parseOrder_compound hk, ← ih, store, store,
      storeBefore_compound hk, storeBefore, if_pos hc, storeBefore_eq]
    simp

/-- **Storing undoes taking apart.** -/
lemma store_parseOrder (stored : Selector) : store (parseOrder stored) = stored := by
  rw [store_eq_parseOrder, parseOrder_parseOrder]

/-- Taking apart undoes storing. -/
lemma parseOrder_store (s : Selector) : parseOrder (store s) = s := by
  rw [store_eq_parseOrder, parseOrder_parseOrder]

/-! ### Scoping from left to right -/

/-- Components without combinators between two elements. -/
def IsSubject (s : Selector) : Prop := ∀ c ∈ s, isBoundary c = false

/-- A selector without combinators between two elements is all subject. -/
lemma splitSubject_of_isSubject {s : Selector} (hs : IsSubject s) : splitSubject s = ([], s) := by
  induction s with
  | nil => rfl
  | cons c s ih =>
    have hc : isBoundary c = false := hs c (by simp)
    simp [splitSubject, ih fun d hd => hs d (List.mem_cons_of_mem _ hd), hc]

/-- The subject is looked for after a combinator between two elements. -/
lemma splitSubject_append {c : Component} (hc : isBoundary c = true) (s t : Selector) :
    splitSubject (s ++ c :: t) = (s ++ c :: (splitSubject t).1, (splitSubject t).2) := by
  induction s with
  | nil => simp [splitSubject, hc]
  | cons d s ih => simp [splitSubject, ih]

/-- In a subject the attribute comes before the first pseudo-element. -/
lemma scope_of_isSubject (attr : Text) {s : Selector} (hs : IsSubject s) :
    scope attr s = s.takeWhile (!isElementMark ·) ++
      presence attr :: s.dropWhile (!isElementMark ·) := by
  have hend : subjectEnd s = (s.takeWhile (!isElementMark ·)).length := by
    simp [subjectEnd, splitSubject_of_isSubject hs]
  have htake : s.take (s.takeWhile (!isElementMark ·)).length = s.takeWhile (!isElementMark ·) :=
    (List.prefix_iff_eq_take.1 (List.takeWhile_prefix _)).symm
  have hdrop : s.drop (s.takeWhile (!isElementMark ·)).length = s.dropWhile (!isElementMark ·) := by
    have hcut := List.take_append_drop (s.takeWhile (!isElementMark ·)).length s
    rw [htake] at hcut
    exact List.append_cancel_left (hcut.trans List.takeWhile_append_dropWhile.symm)
  rw [scope, hend, htake, hdrop]

/-- The end of the subject, counted from a combinator between two elements on. -/
lemma subjectEnd_append {c : Component} (hc : isBoundary c = true) (s t : Selector) :
    subjectEnd (s ++ c :: t) = (s ++ [c]).length + subjectEnd t := by
  simp only [subjectEnd, splitSubject_append hc, List.length_append, List.length_cons,
    List.length_nil]
  omega

/-- What comes before the subject is left alone. -/
lemma scope_append (attr : Text) {c : Component} (hc : isBoundary c = true) (s t : Selector) :
    scope attr (s ++ c :: t) = s ++ c :: scope attr t := by
  have hcons : s ++ c :: t = (s ++ [c]) ++ t := by simp
  rw [scope, subjectEnd_append hc, hcons, List.take_length_add_append,
    List.drop_length_add_append, scope]
  simp

/-! ### Scoping in storage -/

/-- **Scoping a stored selector**: its components are taken apart, the attribute is inserted, and
they are stored again. -/
def visit (attr : Text) (stored : Selector) : Selector := store (scope attr (parseOrder stored))

/-- Storing a combinator and what is on its two sides. -/
lemma store_append_cons (s t : Selector) {c : Component} (hc : isCombinator c = true) :
    store (s ++ c :: t) = store t ++ c :: store s := by
  rw [store_eq_parseOrder, parseOrder_append_cons s t hc, store_eq_parseOrder, store_eq_parseOrder]

/-- A compound is stored as it is. -/
lemma store_compound {k : List Component} (hk : IsCompound k) : store k = k := by
  rw [store_eq_parseOrder, parseOrder_compound hk]

/-- Taking apart keeps the components. -/
lemma mem_parseOrder {s : Selector} {c : Component} : c ∈ parseOrder s ↔ c ∈ s := by
  induction s using compoundInduction with
  | compound k hk => rw [parseOrder_compound hk]
  | combinator k d s hk hd ih =>
    rw [parseOrder_append_cons k s hd, parseOrder_compound hk]
    simp only [List.mem_append, List.mem_cons, ih]
    tauto

/-- An attribute that has to be there is no combinator. -/
lemma isCombinator_presence (attr : Text) : isCombinator (presence attr) = false := rfl

/-- The attribute is stored at the end of a subject: it comes last in the compound of the element,
and this compound is stored last. -/
lemma store_scope_of_isSubject (attr : Text) {s : Selector} (hs : IsSubject s) :
    store (scope attr s) = store s ++ [presence attr] := by
  have hpresence := isCombinator_presence attr
  have hplain : ∀ k : List Component, IsCompound k → ∀ c ∈ k, (!isElementMark c) = true := by
    intro k hk c hc
    have hnone : c.combinator? = none := by simpa [isCombinator] using hk c hc
    simp [isElementMark, hnone]
  rw [scope_of_isSubject attr hs]
  induction s using compoundInduction with
  | compound k hk =>
    rw [List.takeWhile_eq_self_iff.2 (hplain k hk), List.dropWhile_eq_nil_iff.2 (hplain k hk),
      store_compound (hk.concat hpresence), store_compound hk]
  | combinator k c s hk hc _ =>
    have hmark : ¬ (!isElementMark c) = true := by
      have hboundary := hs c (by simp)
      simp only [isBoundary, isCombinator] at hboundary hc
      simpa [hc] using hboundary
    rw [List.takeWhile_append_of_pos (hplain k hk), List.dropWhile_append_of_pos (hplain k hk),
      List.takeWhile_cons_of_neg (p := (!isElementMark ·)) hmark,
      List.dropWhile_cons_of_neg (p := (!isElementMark ·)) hmark, List.append_nil]
    calc store (k ++ presence attr :: c :: s)
        = store ((k ++ [presence attr]) ++ c :: s) := by rw [List.append_assoc]; rfl
      _ = store s ++ c :: (k ++ [presence attr]) := by
        rw [store_append_cons _ _ hc, store_compound (hk.concat hpresence)]
      _ = store (k ++ c :: s) ++ [presence attr] := by
        rw [store_append_cons _ _ hc, store_compound hk, List.append_assoc]
        rfl

/-- **Scoping inserts before the first boundary in storage.** Whatever combinators and
pseudo-elements a stored selector has, the attribute comes right after the compounds of its
subject, the last of which is that of the element.

**Proof sketch.** Taking apart puts what is before the first boundary behind the last one, so it is
the subject; scoping leaves the rest alone, and storing turns the sides around again. -/
theorem visit_eq_insert (attr : Text) (stored : Selector) :
    visit attr stored = stored.takeWhile (!isBoundary ·) ++
      presence attr :: stored.dropWhile (!isBoundary ·) := by
  have hsubject : IsSubject (parseOrder (stored.takeWhile (!isBoundary ·))) := by
    intro c hc
    simpa using List.mem_takeWhile_imp (mem_parseOrder.1 hc)
  have hsplit := List.takeWhile_append_dropWhile (p := (!isBoundary ·)) (l := stored)
  cases hdrop : stored.dropWhile (!isBoundary ·) with
  | nil =>
    rw [hdrop, List.append_nil] at hsplit
    rw [hsplit] at hsubject ⊢
    rw [visit, store_scope_of_isSubject attr hsubject, store_parseOrder]
  | cons c rest =>
    have hc : isBoundary c = true := by
      have := List.head_dropWhile_not (!isBoundary ·) (l := stored) (by simp [hdrop])
      simpa [hdrop] using this
    have hcombinator : isCombinator c = true := by
      simp only [isBoundary, Bool.and_eq_true] at hc
      exact hc.1
    rw [hdrop] at hsplit
    generalize stored.takeWhile (!isBoundary ·) = subject at hsubject hsplit ⊢
    rw [← hsplit, visit, parseOrder_append_cons _ _ hcombinator, scope_append attr hc,
      store_append_cons _ _ hcombinator, store_scope_of_isSubject attr hsubject, store_parseOrder,
      store_parseOrder, List.append_assoc]
    rfl

/-- Stored last compound first, `a > b::before` gets the attribute between `b` and the
combinator. -/
example (attr : Text) :
    visit attr [.pseudoElement "before".toList, .combinator .pseudoElement, .tag "b".toList,
        .combinator .child, .tag "a".toList] =
      [.pseudoElement "before".toList, .combinator .pseudoElement, .tag "b".toList, presence attr,
        .combinator .child, .tag "a".toList] := rfl

/-- What a style sheet is written with, from left to right, is what scoping leaves in storage. -/
lemma visit_store (attr : Text) (s : Selector) : visit attr (store s) = store (scope attr s) := by
  rw [visit, parseOrder_store]

end OneFile.Style.Selector
