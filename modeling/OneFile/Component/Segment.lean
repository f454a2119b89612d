import OneFile.Markup.Node

/-!
# Parts of a component

The top-level nodes of a component by what they are for: scripts, styles and the template. Only
top-level elements count; a style within another element is template.

## Main definitions

* `OneFile.ScriptBlock`, `OneFile.Parts`
* `OneFile.isModuleScript` — scripts that run once for all uses of the component.
* `OneFile.Parts.ofNodes`
* `OneFile.TemplateShape` — how much a template renders.
-/

namespace OneFile

open Markup

/-- A top-level script. -/
structure ScriptBlock where
  element : Element
  isModule : Bool
deriving DecidableEq, Repr

/-- A component's top-level nodes by what they are for, each list in document order. -/
structure Parts where
  scripts : List ScriptBlock
  styles : List Element
  template : List Node
deriving DecidableEq, Repr

/-- Whether a script is shared by all uses of its component: it says `module`, or
`context="module"`. -/
def isModuleScript (tag : Tag) : Bool :=
  tag.hasAttribute "module".toList ||
    match tag.attribute? "context".toList with
    | some a => a.value == .text [.text "module".toList]
    | none => false

/-- The node as a script, if it is one. -/
def scriptBlock? : Node → Option ScriptBlock
  | .element tag children span =>
    if tag.name = "script".toList then some ⟨⟨tag, children, span⟩, isModuleScript tag⟩ else none
  | _ => none

/-- The node as a style, if it is one. -/
def styleBlock? : Node → Option Element
  | .element tag children span =>
    if tag.name = "style".toList then some ⟨tag, children, span⟩ else none
  | _ => none

/-- Whether the node belongs to the template. -/
def isTemplate (node : Node) : Bool := (scriptBlock? node).isNone && (styleBlock? node).isNone

namespace Parts

/-- Sorts top-level nodes. Blank text before the first other template node is dropped. -/
def ofNodes (nodes : List Node) : Parts where
  scripts := nodes.filterMap scriptBlock?
  styles := nodes.filterMap styleBlock?
  template := (nodes.filter isTemplate).dropWhile Node.isBlankText

/-- How many scripts are shared by all uses of the component. -/
def moduleScripts (parts : Parts) : Nat := parts.scripts.countP ScriptBlock.isModule

/-- How many scripts belong to each use of the component. -/
def instanceScripts (parts : Parts) : Nat := parts.scripts.length - parts.moduleScripts

end Parts

/-- How much a template renders. -/
inductive TemplateShape where
  /-- Nothing. -/
  | empty
  /-- Exactly one element. -/
  | element
  /-- Anything else. -/
  | fragment
deriving DecidableEq, Repr, Inhabited

/-- The shape of a list of nodes. -/
def TemplateShape.ofNodes (nodes : List Node) : TemplateShape :=
  match nodes.filter Node.isSignificant with
  | [] => .empty
  | [node] => if node.isElement then .element else .fragment
  | _ => .fragment

end OneFile
