import OneFile.Style.Selector

/-!
# Scoping selectors

A selector is narrowed to the elements of one component by an attribute that all of these have. The
element that a selector is about is its subject: what comes after the last combinator. Its
pseudo-elements come after its attributes.

## Main definitions

* `OneFile.Style.Selector.subjectEnd` — where the subject ends.
* `OneFile.Style.Selector.scope` — the selector for the elements with an attribute.

## Main results

* `OneFile.Style.Selector.scope_eq_insert` — scoping a selector is an insertion.
-/

namespace OneFile.Style.Selector

/-- Whether a component starts the subject of a pseudo-element. -/
def isElementMark (c : Component) : Bool := c.combinator? == some .pseudoElement

/-- Whether a component is a combinator between two elements. Parts of shadow trees and slots have
elements of their own. -/
def isBoundary (c : Component) : Bool := c.combinator?.isSome && !isElementMark c

/-- The components up to the last combinator between two elements, and the ones after it. -/
def splitSubject : Selector → Selector × Selector
  | [] => ([], [])
  | c :: cs =>
    let (before, subject) := splitSubject cs
    if isBoundary c || !before.isEmpty then (c :: before, subject) else ([], c :: subject)

/-- The number of components before the end of the subject. -/
def subjectEnd (s : Selector) : Nat :=
  let (before, subject) := splitSubject s
  before.length + (subject.takeWhile fun c => !isElementMark c).length

/-- The components of an attribute that has to be there, whatever its value. -/
def presence (attr : Text) : Component := .attribute none attr none

/-- The selector for those elements that have an attribute. -/
def scope (attr : Text) (s : Selector) : Selector :=
  s.take (subjectEnd s) ++ presence attr :: s.drop (subjectEnd s)

/-- Scoping a selector is putting the requirement in its place. -/
theorem scope_eq_insert (attr : Text) (s : Selector) :
    scope attr s = s.insertIdx (min (subjectEnd s) s.length) (presence attr) := by
  unfold scope
  generalize subjectEnd s = n
  induction s generalizing n with
  | nil => simp
  | cons c cs ih => cases n <;> simp_all

end OneFile.Style.Selector
