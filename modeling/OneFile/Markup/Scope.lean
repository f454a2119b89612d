import OneFile.Markup.Node

/-!
# Scoping markup

Every element of a component carries the component's scope attribute, a bare name. An element
that has an attribute of that name already is left as it is.

## Main definitions

* `OneFile.Markup.scopeAttribute` — the name of the attribute for an id.
* `OneFile.Markup.Tag.scope`
* `OneFile.Markup.Node.scope`, `OneFile.Markup.Node.scopeAll`
-/

namespace OneFile.Markup

/-- The name of the scope attribute for a component id. -/
def scopeAttribute (id : Text) : Text := "data-scope-".toList ++ id

/-- The tag with the attribute `name` after its own ones. -/
def Tag.scope (name : Text) (tag : Tag) : Tag :=
  if tag.hasAttribute name then tag
  else { tag with attributes := tag.attributes ++ [Attribute.present name] }

namespace Node

mutual

/-- The node with the attribute `name` on every element. -/
def scope (name : Text) : Node → Node
  | .element tag children span => .element (tag.scope name) (scopeAll name children) span
  | .text value span => .text value span
  | .expression source span => .expression source span
  | .comment value span => .comment value span

/-- The nodes with the attribute `name` on every element. -/
def scopeAll (name : Text) : List Node → List Node
  | [] => []
  | node :: nodes => scope name node :: scopeAll name nodes

end

/-- Nodes are scoped one by one. -/
theorem scopeAll_eq_map (name : Text) (nodes : List Node) :
    scopeAll name nodes = nodes.map (scope name) := by
  induction nodes with
  | nil => simp [scopeAll]
  | cons node nodes ih => simp [scopeAll, ih]

end Node

/-- The nodes of a component with this id. -/
def scopeTemplate (id : Text) (nodes : List Node) : List Node :=
  Node.scopeAll (scopeAttribute id) nodes

end OneFile.Markup
