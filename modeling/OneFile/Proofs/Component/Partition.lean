import Mathlib.Data.List.Basic
import Mathlib.Data.List.Induction
import Mathlib.Data.List.TakeWhile
import Mathlib.Tactic.Common
import OneFile.Component.Segment

/-!
# Every top-level node has one place

The parts of a component are described kind by kind, each as a selection from all top-level nodes.
They also come out of one pass over the nodes that looks at each of them once: what it does with
blank text depends on whether the template has begun. This module ties the two together, and shows
that the parts share out the nodes: nothing is lost but the blank text before the template begins,
nothing is in two parts, and the order stays.

## Main definitions

* `OneFile.Markup.Node.isNamed`, `OneFile.Markup.Node.isOther` — nodes by what they are for.
* `OneFile.Parts.add` — the parts with one more node.
* `OneFile.Parts.ShareOut` — what it means that parts share out nodes.

## Main results

* `OneFile.Parts.ofNodes_concat`, `OneFile.Parts.foldl_add` — sorting is one pass.
* `OneFile.Parts.ofNodes_shareOut` — the parts share out the nodes.
-/

namespace OneFile

open Markup

namespace Markup

/-- An element as a node. -/
def Element.node (e : Element) : Node := .element e.tag e.children e.span

namespace Node

/-- Whether the node is an element of that name. -/
def isNamed (name : Text) : Node → Bool
  | .element tag _ _ => tag.name == name
  | .text .. | .expression .. | .comment .. => false

/-- Whether the node is neither a script nor a style. -/
def isOther (node : Node) : Bool :=
  !node.isNamed "script".toList && !node.isNamed "style".toList

/-- No node has two names. -/
lemma eq_of_isNamed {node : Node} {name name' : Text} (h : node.isNamed name = true)
    (h' : node.isNamed name' = true) : name = name' := by
  cases node with
  | element tag children span => exact (eq_of_beq h).symm.trans (eq_of_beq h')
  | text => cases h
  | expression => cases h
  | comment => cases h

end Node

end Markup

/-! ### One node -/

/-- The node as a script is the node itself, if it is one. -/
lemma map_node_scriptBlock? (node : Node) :
    (scriptBlock? node).map (fun block => block.element.node) =
      Option.guard (Node.isNamed "script".toList) node := by
  generalize hname : "script".toList = name
  cases node with
  | element tag children span =>
    simp only [scriptBlock?, Option.guard, Node.isNamed, hname, beq_iff_eq]
    split_ifs <;> rfl
  | text => rfl
  | expression => rfl
  | comment => rfl

/-- The node as a style is the node itself, if it is one. -/
lemma map_node_styleBlock? (node : Node) :
    (styleBlock? node).map Element.node = Option.guard (Node.isNamed "style".toList) node := by
  generalize hname : "style".toList = name
  cases node with
  | element tag children span =>
    simp only [styleBlock?, Option.guard, Node.isNamed, hname, beq_iff_eq]
    split_ifs <;> rfl
  | text => rfl
  | expression => rfl
  | comment => rfl

/-- A script is shared by all uses of its component just if its tag says so. -/
lemma isModule_of_scriptBlock? {node : Node} {block : ScriptBlock}
    (h : scriptBlock? node = some block) : block.isModule = isModuleScript block.element.tag := by
  cases node with
  | element tag children span =>
    simp only [scriptBlock?] at h
    split_ifs at h
    cases h
    rfl
  | text => cases h
  | expression => cases h
  | comment => cases h

/-- The nodes of the template are those that are neither scripts nor styles. -/
lemma isTemplate_eq_isOther (node : Node) : isTemplate node = node.isOther := by
  have hscript := congrArg Option.isNone (map_node_scriptBlock? node)
  have hstyle := congrArg Option.isNone (map_node_styleBlock? node)
  rw [Option.isNone_map, Option.guard] at hscript hstyle
  rw [isTemplate, hscript, hstyle, Node.isOther]
  cases node.isNamed "script".toList <;> cases node.isNamed "style".toList <;> rfl

/-- A script is no style. -/
lemma styleBlock?_of_scriptBlock? {node : Node} {block : ScriptBlock}
    (h : scriptBlock? node = some block) : styleBlock? node = none := by
  have hscript := map_node_scriptBlock? node
  have hstyle := map_node_styleBlock? node
  rw [h, Option.map_some, Option.guard] at hscript
  rw [Option.guard] at hstyle
  split_ifs at hscript hstyle with hnamed hnamed'
  · exact absurd (Node.eq_of_isNamed hnamed hnamed') (by decide)
  · exact Option.map_eq_none_iff.1 hstyle

namespace Parts

/-! ### One pass over the nodes -/

/-- **The parts with one more node**, after those that they have. Blank text is passed over as long
as the template is empty. -/
def add (parts : Parts) (node : Node) : Parts :=
  match scriptBlock? node, styleBlock? node with
  | some block, _ => { parts with scripts := parts.scripts ++ [block] }
  | none, some style => { parts with styles := parts.styles ++ [style] }
  | none, none =>
    if parts.template.isEmpty && node.isBlankText then parts
    else { parts with template := parts.template ++ [node] }

/-- What comes last joins the template, unless nothing but blanks has come before and it is blank
itself. -/
lemma dropWhile_concat (nodes : List Node) (node : Node) :
    (nodes ++ [node]).dropWhile Node.isBlankText =
      if (nodes.dropWhile Node.isBlankText).isEmpty && node.isBlankText then
        nodes.dropWhile Node.isBlankText
      else nodes.dropWhile Node.isBlankText ++ [node] := by
  rw [List.dropWhile_append]
  by_cases hempty : nodes.dropWhile Node.isBlankText = []
  · cases h : node.isBlankText <;> simp [hempty, h]
  · simp [hempty]

/-- **One more node is added as the pass adds it.** -/
theorem ofNodes_concat (nodes : List Node) (node : Node) :
    ofNodes (nodes ++ [node]) = (ofNodes nodes).add node := by
  simp only [ofNodes, List.filterMap_append, List.filter_append, add]
  cases hscript : scriptBlock? node with
  | some block => simp [hscript, styleBlock?_of_scriptBlock? hscript, isTemplate]
  | none =>
    cases hstyle : styleBlock? node with
    | some style => simp [hscript, hstyle, isTemplate]
    | none =>
      have htemplate : [node].filter isTemplate = [node] := by simp [isTemplate, hscript, hstyle]
      rw [htemplate, dropWhile_concat, List.filterMap_cons_none hscript,
        List.filterMap_cons_none hstyle, List.filterMap_nil, List.filterMap_nil,
        List.append_nil, List.append_nil]
      exact apply_ite (Parts.mk _ _) _ _ _

/-- **Sorting is one pass over the nodes.** -/
theorem foldl_add (nodes : List Node) : nodes.foldl add ⟨[], [], []⟩ = ofNodes nodes := by
  induction nodes using List.reverseRecOn with
  | nil => rfl
  | append_singleton nodes node ih => rw [List.foldl_concat, ih, ofNodes_concat]

/-! ### What the parts hold -/

/-- The nodes of the scripts. -/
def scriptNodes (parts : Parts) : List Node := parts.scripts.map fun block => block.element.node

/-- The nodes of the styles. -/
def styleNodes (parts : Parts) : List Node := parts.styles.map Element.node

/-- **The parts share out nodes**, but for some that are dropped. Scripts and styles are the
elements of these names. The nodes can be cut in two so that the template is what else stands after
the cut, and begins there; what else stands before it is blank text, and is dropped. So every node
is in one part or dropped, as often as it is among the nodes, no node is in two parts, and each
part has its nodes in their order. -/
structure ShareOut (nodes dropped : List Node) (parts : Parts) : Prop where
  scripts : parts.scriptNodes = nodes.filter (Node.isNamed "script".toList)
  styles : parts.styleNodes = nodes.filter (Node.isNamed "style".toList)
  template : ∃ lead body, nodes = lead ++ body ∧
    dropped = lead.filter Node.isOther ∧ parts.template = body.filter Node.isOther ∧
    (∀ node ∈ dropped, node.isBlankText = true) ∧
    ∀ first ∈ body.head?, first.isOther = true ∧ first.isBlankText = false
  perm : nodes.Perm (parts.scriptNodes ++ parts.styleNodes ++ dropped ++ parts.template)
  disjoint : [parts.scriptNodes, parts.styleNodes, parts.template].Pairwise List.Disjoint
  ordered : ∀ part ∈ [parts.scriptNodes, parts.styleNodes, parts.template], part.Sublist nodes
  head : ∀ first ∈ parts.template.head?, first.isBlankText = false
  isModule : ∀ block ∈ parts.scripts, block.isModule = isModuleScript block.element.tag
  counts : parts.instanceScripts = parts.scripts.countP (fun block => !block.isModule) ∧
    parts.moduleScripts + parts.instanceScripts = parts.scripts.length

/-- The scripts are the elements of this name. -/
lemma scriptNodes_ofNodes (nodes : List Node) :
    (ofNodes nodes).scriptNodes = nodes.filter (Node.isNamed "script".toList) := by
  rw [scriptNodes, ofNodes, List.map_filterMap, ← List.filterMap_eq_filter]
  exact congrArg (nodes.filterMap ·) (funext map_node_scriptBlock?)

/-- The styles are the elements of this name. -/
lemma styleNodes_ofNodes (nodes : List Node) :
    (ofNodes nodes).styleNodes = nodes.filter (Node.isNamed "style".toList) := by
  rw [styleNodes, ofNodes, List.map_filterMap, ← List.filterMap_eq_filter]
  exact congrArg (nodes.filterMap ·) (funext map_node_styleBlock?)

/-- **Every node is a script, a style or neither.** -/
lemma perm_filter (nodes : List Node) : nodes.Perm
    (nodes.filter (Node.isNamed "script".toList) ++ nodes.filter (Node.isNamed "style".toList) ++
      nodes.filter Node.isOther) := by
  have hscripts := List.filter_append_perm (Node.isNamed "script".toList) nodes
  have hrest := List.filter_append_perm (Node.isNamed "style".toList)
    (nodes.filter fun node => !node.isNamed "script".toList)
  have hstyles : (nodes.filter fun node => !node.isNamed "script".toList).filter
      (Node.isNamed "style".toList) = nodes.filter (Node.isNamed "style".toList) := by
    rw [List.filter_filter]
    refine List.filter_congr fun node _ => ?_
    cases hstyle : node.isNamed "style".toList with
    | false => rfl
    | true =>
      cases hscript : node.isNamed "script".toList with
      | false => rfl
      | true => exact absurd (Node.eq_of_isNamed hscript hstyle) (by decide)
  have hothers : (nodes.filter fun node => !node.isNamed "script".toList).filter
      (fun node => !node.isNamed "style".toList) = nodes.filter Node.isOther := by
    rw [List.filter_filter]
    exact List.filter_congr fun node _ => Bool.and_comm ..
  rw [hstyles, hothers] at hrest
  rw [List.append_assoc]
  exact hscripts.symm.trans (hrest.symm.append_left _)

/-- Whether the node is passed over before the template begins: scripts, styles and blank text. -/
def isPassed (node : Node) : Bool := !node.isOther || node.isBlankText

/-- The pass over scripts, styles and blank text stops at what is none of these. -/
lemma isOther_and_visible_of_mem_head? {nodes : List Node} {first : Node}
    (h : first ∈ (nodes.dropWhile isPassed).head?) :
    first.isOther = true ∧ first.isBlankText = false := by
  have hstop := List.head?_dropWhile_not isPassed nodes
  rw [Option.mem_def.1 h] at hstop
  simpa [isPassed] using hstop

/-- The template begins at the first node that is not passed over. -/
lemma template_ofNodes (nodes : List Node) :
    (ofNodes nodes).template = (nodes.dropWhile isPassed).filter Node.isOther := by
  have htemplate : isTemplate = Node.isOther := funext isTemplate_eq_isOther
  show (nodes.filter isTemplate).dropWhile Node.isBlankText = _
  rw [htemplate]
  induction nodes with
  | nil => rfl
  | cons node nodes ih =>
    cases hother : node.isOther with
    | false => simpa [hother, isPassed] using ih
    | true =>
      cases hblank : node.isBlankText with
      | true => simpa [hother, hblank, isPassed] using ih
      | false => simp [hother, hblank, isPassed]

/-- Scripts, styles and the template have no nodes in common. -/
lemma disjoint_ofNodes (nodes : List Node) :
    [(ofNodes nodes).scriptNodes, (ofNodes nodes).styleNodes, (ofNodes nodes).template].Pairwise
      List.Disjoint := by
  rw [scriptNodes_ofNodes, styleNodes_ofNodes, template_ofNodes]
  have hname : ∀ node ∈ (nodes.dropWhile isPassed).filter Node.isOther,
      node.isNamed "script".toList = false ∧ node.isNamed "style".toList = false := by
    intro node hnode
    have hother := (List.mem_filter.1 hnode).2
    rw [Node.isOther, Bool.and_eq_true, Bool.not_eq_true', Bool.not_eq_true'] at hother
    exact hother
  refine .cons ?_ (.cons ?_ (.cons (by simp) .nil))
  · rintro part hpart node hnode hnode'
    have hscript := (List.mem_filter.1 hnode).2
    rcases List.mem_pair.1 hpart with rfl | rfl
    · exact absurd (Node.eq_of_isNamed hscript (List.mem_filter.1 hnode').2) (by decide)
    · rw [(hname node hnode').1] at hscript
      cases hscript
  · rintro part hpart node hnode hnode'
    obtain rfl := List.mem_singleton.1 hpart
    have hstyle := (List.mem_filter.1 hnode).2
    rw [(hname node hnode').2] at hstyle
    cases hstyle

/-- The template begins visibly, at the node that the pass stopped at. -/
lemma visible_of_mem_head?_template {nodes : List Node} {first : Node}
    (h : first ∈ (ofNodes nodes).template.head?) : first.isBlankText = false := by
  rw [template_ofNodes] at h
  cases hdrop : nodes.dropWhile isPassed with
  | nil => simp [hdrop] at h
  | cons node rest =>
    have hhead : node ∈ (nodes.dropWhile isPassed).head? := by rw [hdrop]; rfl
    have hnode := isOther_and_visible_of_mem_head? hhead
    rw [hdrop, List.filter_cons_of_pos hnode.1] at h
    cases h
    exact hnode.2

/-- **No node is lost** but those neither scripts nor styles that are passed over. -/
lemma perm_ofNodes (nodes : List Node) : nodes.Perm ((ofNodes nodes).scriptNodes ++
    (ofNodes nodes).styleNodes ++ (nodes.takeWhile isPassed).filter Node.isOther ++
      (ofNodes nodes).template) := by
  have hcut := List.takeWhile_append_dropWhile (p := isPassed) (l := nodes)
  rw [scriptNodes_ofNodes, styleNodes_ofNodes, template_ofNodes, List.append_assoc _ _
    ((nodes.dropWhile isPassed).filter Node.isOther), ← List.filter_append, hcut]
  exact perm_filter nodes

/-- A script is shared by all uses of its component, or it belongs to each of them. -/
lemma moduleScripts_add_countP (parts : Parts) : parts.moduleScripts +
    parts.scripts.countP (fun block => !block.isModule) = parts.scripts.length := by
  have hcount := List.length_eq_countP_add_countP ScriptBlock.isModule (l := parts.scripts)
  simp only [Bool.not_eq_true, Bool.decide_eq_false] at hcount
  exact hcount.symm

/-- **The parts of a component share out its top-level nodes**, in one pass over them. Scripts are
just the elements of that name and styles just those of theirs; the template is all the rest but the
blank text that comes before the first other node of the rest, whatever scripts and styles stand
between. Nothing else is dropped, nothing is repeated or in two parts, and the order stays.

**Proof sketch.** The cut is at the first node that is not passed over. Each node is a script, a
style or neither, and of the last ones those before the cut are blank text. -/
theorem ofNodes_shareOut (nodes : List Node) :
    nodes.foldl add ⟨[], [], []⟩ = ofNodes nodes ∧
      ∃ dropped, ShareOut nodes dropped (ofNodes nodes) := by
  refine ⟨foldl_add nodes, (nodes.takeWhile isPassed).filter Node.isOther, ?_⟩
  constructor
  case scripts => exact scriptNodes_ofNodes nodes
  case styles => exact styleNodes_ofNodes nodes
  case template =>
    refine ⟨_, _, List.takeWhile_append_dropWhile.symm, rfl, template_ofNodes nodes,
      fun node hnode => ?_, fun _ => isOther_and_visible_of_mem_head?⟩
    obtain ⟨hlead, hother⟩ := List.mem_filter.1 hnode
    simpa [isPassed, hother] using List.mem_takeWhile_imp hlead
  case perm => exact perm_ofNodes nodes
  case disjoint => exact disjoint_ofNodes nodes
  case ordered =>
    rw [scriptNodes_ofNodes, styleNodes_ofNodes, template_ofNodes]
    simp only [List.forall_mem_cons, List.not_mem_nil, false_imp_iff, implies_true, and_true]
    exact ⟨List.filter_sublist, List.filter_sublist,
      List.filter_sublist.trans (List.dropWhile_sublist _)⟩
  case head => exact fun _ => visible_of_mem_head?_template
  case isModule =>
    intro block hblock
    obtain ⟨node, -, hnode⟩ := List.mem_filterMap.1 hblock
    exact isModule_of_scriptBlock? hnode
  case counts =>
    have hcount := moduleScripts_add_countP (ofNodes nodes)
    unfold instanceScripts
    omega

end Parts

end OneFile
