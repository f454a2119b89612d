import OneFile.Markup.Node

/-!
# Walking markup

A walk goes through a forest in document order and records what it meets. It does not go below
elements whose name is pruned. It can also put the names of the elements and the texts that it
meets in upper case; an element's name changes when the walk leaves it.

## Main definitions

* `OneFile.Markup.Walk` — the settings of a walk.
* `OneFile.Markup.Walk.Event` — what a walk records.
* `OneFile.Markup.Walk.node`, `OneFile.Markup.Walk.forest` — the record, and the forest after it.
-/

namespace OneFile.Markup

/-- The settings of a walk. -/
structure Walk where
  /-- The elements whose children are passed over. -/
  prune : List Text
  /-- Whether names and texts are put in upper case. -/
  upper : Bool
deriving DecidableEq, Repr

namespace Walk

/-- What a walk records. -/
inductive Event where
  /-- A list of that many siblings. -/
  | children (count : Nat)
  /-- A node, and whether it is blank text. -/
  | node (span : Span) (blank : Bool)
  | element (name : Text)
  /-- The end of an element, by the name it now has. -/
  | leave (name : Text)
  | text (value : Text)
  | expression (source : Text)
  | comment (value : Text)
deriving DecidableEq, Repr

/-- The text as the walk leaves it. -/
def recase (w : Walk) (s : Text) : Text := if w.upper then s.upper else s

mutual

/-- One node: what is recorded, and the node afterwards. -/
def node (w : Walk) : Node → List Event × Node
  | .element tag children span =>
    let below := if w.prune.contains tag.name then ([], children) else
      let inner := siblings w children
      (.children children.length :: inner.1, inner.2)
    let tag' := { tag with name := w.recase tag.name }
    (.node span false :: .element tag.name :: below.1 ++ [.leave tag'.name],
      .element tag' below.2 span)
  | .text value span => ([.node span value.blank, .text value], .text (w.recase value) span)
  | .expression source span => ([.node span false, .expression source], .expression source span)
  | .comment value span => ([.node span false, .comment value], .comment value span)

/-- Nodes one after the other. -/
def siblings (w : Walk) : List Node → List Event × List Node
  | [] => ([], [])
  | n :: ns =>
    let first := node w n
    let others := siblings w ns
    (first.1 ++ others.1, first.2 :: others.2)

end

/-- A whole forest. -/
def forest (w : Walk) (nodes : List Node) : List Event × List Node :=
  let inner := siblings w nodes
  (.children nodes.length :: inner.1, inner.2)

end Walk

end OneFile.Markup
