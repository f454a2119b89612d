import OneFile.Style.Token

/-!
# Selectors

A selector is the list of its components from left to right: what an element has to be like, and
how elements are related. A pseudo-element belongs to the element before it, to which a combinator
of its own joins it.

## Main definitions

* `OneFile.Style.Combinator`
* `OneFile.Style.Component`
* `OneFile.Style.Selector`
-/

namespace OneFile.Style

/-- How what comes next is related to what came before. -/
inductive Combinator where
  | descendant
  | child
  | nextSibling
  | laterSibling
  /-- Joins a pseudo-element to its element. -/
  | pseudoElement
  /-- Joins a part of a shadow tree to its host. -/
  | part
  /-- Joins an element to the slot that it is shown in. -/
  | slotAssignment
deriving DecidableEq, Repr

/-- The namespace of an element or attribute. -/
inductive Namespace where
  | any
  | none
  | named (label : Text)
deriving DecidableEq, Repr

/-- Whether the case of an attribute's value matters, as far as the selector says. -/
inductive CaseRule where
  | unstated
  | ignored
  | respected
deriving DecidableEq, Repr

/-- What the value of an attribute has to be like. -/
structure AttributeTest where
  /-- The character before the equals sign, if there is one. -/
  operator : Option Char
  value : Text
  caseRule : CaseRule
deriving DecidableEq, Repr

/-- How siblings are counted. -/
inductive NthKind where
  | child
  | lastChild
  | ofType
  | lastOfType
  | column
  | lastColumn
deriving DecidableEq, Repr

/-- What has to hold for the selectors in parentheses. -/
inductive Matching where
  | is
  | «where»
  | not
  | has
  /-- As `is`, by a name with a vendor's mark. -/
  | any (vendor : Text)
deriving DecidableEq, Repr

/-- Which view transitions a pseudo-element is about. -/
inductive TransitionName where
  | any
  | named (label : Text)
deriving DecidableEq, Repr

/-- A component of a selector. -/
inductive Component where
  | combinator (c : Combinator)
  /-- What the style rule around it selects. -/
  | nesting
  | inNamespace (ns : Namespace)
  /-- An element of any name. -/
  | universal
  | tag (name : Text)
  | id (name : Text)
  | «class» (name : Text)
  | «attribute» (ns : Option Namespace) (name : Text) (test : Option AttributeTest)
  | pseudoClass (name : Text)
  /-- A pseudo-class with arguments that no grammar is known for. -/
  | pseudoFunction (name : Text) (arguments : List Node)
  | lang (names : List Text)
  | dir (direction : Text)
  /-- Every `a`-th sibling from the `b`-th on, out of those selected. -/
  | nth (kind : NthKind) (a b : Int) (among : Option (List (List Component)))
  | «matching» (m : Matching) (selectors : List (List Component))
  | host (selector : List Component)
  | slotted (selector : List Component)
  | part (names : List Text)
  | pseudoElement (name : Text)
  /-- A pseudo-element with a selector in parentheses. -/
  | cue (name : Text) (selector : List Component)
  /-- A pseudo-element with names of view transitions in parentheses. -/
  | transition (name : Text) (label : Option TransitionName) (classes : List Text)
  /-- A pseudo-element with arguments that no grammar is known for. -/
  | pseudoElementFunction (name : Text) (arguments : List Node)
deriving Repr

/-- A selector, as its components from left to right. -/
abbrev Selector := List Component

namespace Component

/-- The combinator that a component is. -/
def combinator? : Component → Option Combinator
  | combinator c => some c
  | _ => none

/-- The pseudo-class that stands for the element that selectors are relative to. -/
def scope : Component := pseudoClass "scope".toList

/-- Whether the component stands for the element that selectors are relative to. -/
def isScope : Component → Bool
  | pseudoClass name => name == "scope".toList
  | _ => false

mutual

/-- Whether the component names what the style rule around it selects. -/
def mentionsNesting : Component → Bool
  | nesting => true
  | «matching» _ selectors => anyMentionsNesting selectors
  | host selector | slotted selector => listMentionsNesting selector
  | _ => false

/-- Whether one of the components names what the style rule around them selects. -/
def listMentionsNesting : List Component → Bool
  | [] => false
  | c :: cs => c.mentionsNesting || listMentionsNesting cs

/-- Whether one of the selectors names what the style rule around them selects. -/
def anyMentionsNesting : List (List Component) → Bool
  | [] => false
  | s :: ss => listMentionsNesting s || anyMentionsNesting ss

end

/-- Whether the component says what kind an element is, or in what namespace. -/
def isType : Component → Bool
  | inNamespace _ | universal | tag _ => true
  | _ => false

end Component

end OneFile.Style
