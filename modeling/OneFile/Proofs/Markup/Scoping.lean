import Mathlib.Data.List.Forall2
import OneFile.Markup.Scope
import OneFile.Proofs.Markup.Spelling

/-!
# Scoping touches nothing but one attribute

Scoping goes through a forest and adds the scope attribute to the tags that lack it. This module
says what a scoped forest has in common with the one before, and how scoping goes together with
itself.

## Main definitions

* `OneFile.Markup.Node.mapTags` — a node with all of its tags changed.
* `OneFile.Markup.Node.Alike` — two nodes that differ in their tags only.
* `OneFile.Markup.Tag.Gains` — a tag, and what it is with one more attribute.
* `OneFile.Markup.Tag.Reordered` — two tags that differ in the order of attributes only.
* `OneFile.Markup.OnlyScopes` — all that scoping keeps and changes in a forest.

## Main results

* `OneFile.Markup.Node.scope_eq_mapTags` — scoping changes tags only.
* `OneFile.Markup.Tag.scope_scope` — a tag that is scoped twice is as if it were scoped once.
* `OneFile.Markup.Tag.reordered_scope` — two scopes can be added in either order.
* `OneFile.Markup.scopeTemplate_onlyScopes` — scoping touches nothing but the scope attribute.

## Design

Scoping is `mapTags` of a function on tags, and so is scoping twice. What holds of tags is carried
over to forests by `Node.alike_mapTags` alone.
-/

namespace OneFile.Markup

namespace Node

/-! ### Changing the tags -/

mutual

/-- The node with `f` applied to its tag and to all tags below it. -/
def mapTags (f : Tag → Tag) : Node → Node
  | .element tag children span => .element (f tag) (mapAllTags f children) span
  | .text value span => .text value span
  | .expression source span => .expression source span
  | .comment value span => .comment value span

/-- The nodes with `f` applied to all of their tags. -/
def mapAllTags (f : Tag → Tag) : List Node → List Node
  | [] => []
  | node :: nodes => mapTags f node :: mapAllTags f nodes

end

/-- Nodes are changed one by one. -/
lemma mapAllTags_eq_map (f : Tag → Tag) (nodes : List Node) :
    mapAllTags f nodes = nodes.map (mapTags f) := by
  induction nodes with
  | nil => rfl
  | cons node nodes ih => rw [mapAllTags, ih, List.map_cons]

mutual

/-- Tags that are changed twice are changed by both functions. -/
lemma mapTags_mapTags (f g : Tag → Tag) (node : Node) :
    (node.mapTags f).mapTags g = node.mapTags (g ∘ f) := by
  cases node with
  | element tag children span =>
    simp only [mapTags, mapAllTags_mapAllTags f g children, Function.comp_apply]
  | text value span => rfl
  | expression source span => rfl
  | comment value span => rfl

/-- Changing the tags of nodes twice is changing them by both changes. -/
lemma mapAllTags_mapAllTags (f g : Tag → Tag) (nodes : List Node) :
    mapAllTags g (mapAllTags f nodes) = mapAllTags (g ∘ f) nodes := by
  cases nodes with
  | nil => rfl
  | cons node nodes =>
    simp only [mapAllTags, mapTags_mapTags f g node, mapAllTags_mapAllTags f g nodes]

end

mutual

/-- Tags that stay as they are change nothing. -/
lemma mapTags_id (node : Node) : node.mapTags id = node := by
  cases node with
  | element tag children span => rw [mapTags, mapAllTags_id children, id]
  | text value span => rfl
  | expression source span => rfl
  | comment value span => rfl

/-- Nodes stay as they are if nothing is done to their tags. -/
lemma mapAllTags_id (nodes : List Node) : mapAllTags id nodes = nodes := by
  cases nodes with
  | nil => rfl
  | cons node nodes => rw [mapAllTags, mapTags_id node, mapAllTags_id nodes]

end

mutual

/-- **Scoping changes tags only.** -/
theorem scope_eq_mapTags (name : Text) (node : Node) :
    node.scope name = node.mapTags (Tag.scope name) := by
  cases node with
  | element tag children span => rw [scope, mapTags, scopeAll_eq_mapAllTags name children]
  | text value span => rfl
  | expression source span => rfl
  | comment value span => rfl

/-- Scoping a list of nodes changes tags only, too. -/
theorem scopeAll_eq_mapAllTags (name : Text) (nodes : List Node) :
    scopeAll name nodes = mapAllTags (Tag.scope name) nodes := by
  cases nodes with
  | nil => rfl
  | cons node nodes =>
    rw [scopeAll, mapAllTags, scope_eq_mapTags name node, scopeAll_eq_mapAllTags name nodes]

end

/-- A tag among changed ones is what some tag was changed to. -/
lemma Within.exists_tag {f : Tag → Tag} {tag : Tag} {children nodes : List Node} {span : Span}
    (h : Within (.element tag children span) (mapAllTags f nodes)) : ∃ before, tag = f before := by
  generalize hchanged : mapAllTags f nodes = changed at h
  induction h generalizing nodes with
  | among hmem =>
    rw [← hchanged, mapAllTags_eq_map] at hmem
    obtain ⟨node, -, hnode⟩ := List.mem_map.1 hmem
    cases node with
    | element before below place =>
      rw [mapTags] at hnode
      exact ⟨before, (Node.element.inj hnode).1.symm⟩
    | text value place => cases hnode
    | expression source place => cases hnode
    | comment value place => cases hnode
  | inside hparent _ ih =>
    rw [← hchanged, mapAllTags_eq_map] at hparent
    obtain ⟨node, -, hnode⟩ := List.mem_map.1 hparent
    cases node with
    | element before below place =>
      rw [mapTags] at hnode
      exact ih (Node.element.inj hnode).2.1
    | text value place => cases hnode
    | expression source place => cases hnode
    | comment value place => cases hnode

/-! ### Nodes that differ in their tags -/

/-- **Two nodes differ in their tags only**, and in those as `R` allows: there are as many nodes
below them in the same order, elements have the same spans, and all other nodes are the same. -/
inductive Alike (R : Tag → Tag → Prop) : Node → Node → Prop
  | element {tag tag' : Tag} {children children' : List Node} {span : Span} (htag : R tag tag')
      (hchildren : List.Forall₂ (Alike R) children children') :
      Alike R (.element tag children span) (.element tag' children' span)
  | text {value : Text} {span : Span} : Alike R (.text value span) (.text value span)
  | expression {source : Text} {span : Span} :
      Alike R (.expression source span) (.expression source span)
  | comment {value : Text} {span : Span} : Alike R (.comment value span) (.comment value span)

mutual

/-- **Two ways to change tags** make nodes that differ as the tags do. -/
lemma alike_mapTags {R : Tag → Tag → Prop} {f g : Tag → Tag} (h : ∀ tag, R (f tag) (g tag))
    (node : Node) : Alike R (node.mapTags f) (node.mapTags g) := by
  cases node with
  | element tag children span => exact .element (h tag) (forall₂_alike_mapAllTags h children)
  | text value span => exact .text
  | expression source span => exact .expression
  | comment value span => exact .comment

/-- Two ways to change tags make lists whose nodes differ as the tags do. -/
lemma forall₂_alike_mapAllTags {R : Tag → Tag → Prop} {f g : Tag → Tag}
    (h : ∀ tag, R (f tag) (g tag)) (nodes : List Node) :
    List.Forall₂ (Alike R) (mapAllTags f nodes) (mapAllTags g nodes) := by
  cases nodes with
  | nil => exact .nil
  | cons node nodes => exact .cons (alike_mapTags h node) (forall₂_alike_mapAllTags h nodes)

end

end Node

/-! ### One tag -/

namespace Tag

variable {name name' : Text} {tag : Tag}

/-- An attribute of a name is there if one of the tag's own has it. -/
lemma hasAttribute_iff :
    tag.hasAttribute name = true ↔ name ∈ tag.attributes.map Attribute.name := by
  simp [hasAttribute, attribute?]

/-- **A tag gains an attribute** that is present at no place, after its own ones, unless it has an
attribute of that name already, with any value. -/
structure Gains (name : Text) (tag tag' : Tag) : Prop where
  name_eq : tag'.name = tag.name
  selfClosing_eq : tag'.selfClosing = tag.selfClosing
  attributes_eq : tag'.attributes =
    if name ∈ tag.attributes.map Attribute.name then tag.attributes
    else tag.attributes ++ [⟨name, .empty, ⟨0, 0⟩⟩]

/-- **Two tags differ in the order of attributes only.** -/
structure Reordered (tag tag' : Tag) : Prop where
  name_eq : tag'.name = tag.name
  selfClosing_eq : tag'.selfClosing = tag.selfClosing
  perm : tag'.attributes.Perm tag.attributes

/-- A tag that has the attribute stays as it is. -/
lemma scope_of_hasAttribute (h : tag.hasAttribute name = true) : tag.scope name = tag :=
  if_pos h

/-- A tag that lacks the attribute has it last. -/
lemma scope_of_lacks (h : ¬ tag.hasAttribute name = true) :
    tag.scope name = { tag with attributes := tag.attributes ++ [Attribute.present name] } :=
  if_neg h

/-- Scoping leaves the name of a tag as it is. -/
lemma name_scope (tag : Tag) : (tag.scope name).name = tag.name := by
  unfold scope
  split_ifs <;> rfl

/-- A tag closes itself just if it does when scoped. -/
lemma selfClosing_scope (tag : Tag) : (tag.scope name).selfClosing = tag.selfClosing := by
  unfold scope
  split_ifs <;> rfl

/-- A tag gains the attribute, unless it has it. -/
lemma gains_scope (tag : Tag) : tag.Gains name (tag.scope name) := by
  refine ⟨tag.name_scope, tag.selfClosing_scope, ?_⟩
  by_cases h : tag.hasAttribute name = true
  · rw [scope_of_hasAttribute h, if_pos (hasAttribute_iff.1 h)]
  · rw [scope_of_lacks h, if_neg (mt hasAttribute_iff.2 h)]
    rfl

/-- A scoped tag has the attribute, and all names that it had before. -/
lemma hasAttribute_scope : (tag.scope name).hasAttribute name' = true ↔
    name' = name ∨ tag.hasAttribute name' = true := by
  by_cases h : tag.hasAttribute name = true
  · rw [scope_of_hasAttribute h]
    refine ⟨.inr, fun h' => ?_⟩
    rcases h' with rfl | h'
    · exact h
    · exact h'
  · rw [scope_of_lacks h]
    simp only [hasAttribute_iff, List.map_append, List.mem_append, List.map_cons, List.map_nil,
      List.mem_singleton, Attribute.present]
    exact or_comm

/-- **A tag that is scoped twice is as if it were scoped once.** -/
theorem scope_scope (name : Text) (tag : Tag) : (tag.scope name).scope name = tag.scope name :=
  scope_of_hasAttribute (hasAttribute_scope.2 (.inl rfl))

/-- **Two scopes can be added in either order**, but for the order of attributes.

**Proof sketch.** If the names differ, each scope looks at what the tag had before the other one.
So the two attributes are appended in one order or the other if both lack, and else at most one
of them is. -/
theorem reordered_scope (name name' : Text) (tag : Tag) :
    Reordered ((tag.scope name).scope name') ((tag.scope name').scope name) := by
  refine ⟨by simp only [name_scope], by simp only [selfClosing_scope], ?_⟩
  by_cases hname : name = name'
  · rw [hname]
  have hother : (tag.scope name).hasAttribute name' = true ↔ tag.hasAttribute name' = true := by
    rw [hasAttribute_scope, or_iff_right (Ne.symm hname)]
  have hother' : (tag.scope name').hasAttribute name = true ↔ tag.hasAttribute name = true := by
    rw [hasAttribute_scope, or_iff_right hname]
  by_cases h : tag.hasAttribute name = true
  · rw [scope_of_hasAttribute h, scope_of_hasAttribute (hother'.2 h)]
  · by_cases h' : tag.hasAttribute name' = true
    · rw [scope_of_hasAttribute h', scope_of_hasAttribute (hother.2 h')]
    · rw [scope_of_lacks (mt hother.1 h'), scope_of_lacks (mt hother'.1 h), scope_of_lacks h,
        scope_of_lacks h']
      simp only [List.append_assoc]
      exact (List.Perm.swap _ _ _).append_left _

end Tag

/-! ### Whole forests -/

/-- Scoped nodes differ from the nodes before by an attribute that their tags gain. -/
lemma Node.forall₂_alike_scope (name : Text) (nodes : List Node) :
    List.Forall₂ (Alike (Tag.Gains name)) nodes (mapAllTags (Tag.scope name) nodes) := by
  have halike := forall₂_alike_mapAllTags
    (R := Tag.Gains name) (f := id) (g := Tag.scope name) Tag.gains_scope nodes
  rwa [mapAllTags_id] at halike

/-- **Scoping touches nothing but the scope attribute** of an id, and goes together with itself. -/
structure OnlyScopes (id : Text) (nodes : List Node) : Prop where
  /-- The forest stays as it is, but for the attribute that every tag gains. -/
  alike : List.Forall₂ (Node.Alike (Tag.Gains (scopeAttribute id))) nodes (scopeTemplate id nodes)
  /-- Every element at any depth has the attribute. -/
  everywhere : ∀ tag children span,
    Node.Within (.element tag children span) (scopeTemplate id nodes) →
      tag.hasAttribute (scopeAttribute id) = true
  /-- Scoping once more changes nothing. -/
  idempotent : scopeTemplate id (scopeTemplate id nodes) = scopeTemplate id nodes
  /-- Forests are scoped together as they are one by one. -/
  append : ∀ nodes', scopeTemplate id (nodes ++ nodes') =
    scopeTemplate id nodes ++ scopeTemplate id nodes'
  /-- Scoping by another id can come before or after, but for the order of attributes. -/
  swap : ∀ id', List.Forall₂ (Node.Alike Tag.Reordered)
    (scopeTemplate id' (scopeTemplate id nodes)) (scopeTemplate id (scopeTemplate id' nodes))

/-- **Scoping touches nothing but the scope attribute**, for any id and any forest.

**Proof sketch.** Scoping is a change of tags (`Node.scopeAll_eq_mapAllTags`), so `Tag.gains_scope`,
`Tag.scope_scope` and `Tag.reordered_scope` say what becomes of each tag, and `Node.alike_mapTags`
and `Node.mapTags_mapTags` carry them over to the forest. -/
theorem scopeTemplate_onlyScopes (id : Text) (nodes : List Node) : OnlyScopes id nodes := by
  have hscope : ∀ id nodes, scopeTemplate id nodes =
      Node.mapAllTags (Tag.scope (scopeAttribute id)) nodes :=
    fun id nodes => Node.scopeAll_eq_mapAllTags (scopeAttribute id) nodes
  refine ⟨?_, fun tag children span hwithin => ?_, ?_, fun nodes' => ?_, fun id' => ?_⟩
  · rw [hscope]
    exact Node.forall₂_alike_scope (scopeAttribute id) nodes
  · rw [hscope] at hwithin
    obtain ⟨before, rfl⟩ := hwithin.exists_tag
    exact Tag.hasAttribute_scope.2 (.inl rfl)
  · rw [hscope, hscope, Node.mapAllTags_mapAllTags]
    exact congrArg (Node.mapAllTags · nodes) (funext (Tag.scope_scope _))
  · rw [hscope, hscope, hscope]
    simp only [Node.mapAllTags_eq_map, List.map_append]
  · rw [hscope, hscope, hscope, hscope, Node.mapAllTags_mapAllTags, Node.mapAllTags_mapAllTags]
    exact Node.forall₂_alike_mapAllTags (fun tag => Tag.reordered_scope _ _ tag) nodes

/-- An attribute of that name is kept with its value, also below an element that gains it. -/
example : scopeTemplate "z".toList [.element ⟨"p".toList, [], false⟩
      [.element ⟨"b".toList, [⟨"data-scope-z".toList, .text [.text "x".toList], ⟨6, 22⟩⟩], true⟩ []
        ⟨3, 24⟩] ⟨0, 28⟩] =
    [.element ⟨"p".toList, [⟨"data-scope-z".toList, .empty, ⟨0, 0⟩⟩], false⟩
      [.element ⟨"b".toList, [⟨"data-scope-z".toList, .text [.text "x".toList], ⟨6, 22⟩⟩], true⟩ []
        ⟨3, 24⟩] ⟨0, 28⟩] := by
  decide +kernel

end OneFile.Markup
