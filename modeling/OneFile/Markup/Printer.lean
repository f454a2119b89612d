import OneFile.Markup.Node

/-!
# Writing markup

The text of a tree. Elements keep their names and the order of their attributes; one that closes
itself ends in ` />`; text stands as it is; an expression stands in its braces; a comment leaves
nothing.

## Main definitions

* `OneFile.Markup.Attribute.render`
* `OneFile.Markup.Node.render`, `OneFile.Markup.Node.renderAll`
-/

namespace OneFile.Markup

/-- An expression in braces. -/
def braced (source : Text) : Text := '{' :: source ++ ['}']

/-- A stretch of a value as it stands between the quotes. -/
def ValuePart.render : ValuePart → Text
  | .text value => value
  | .expression source => braced source

/-- A value between quotes. Double quotes are used unless the value holds some and no single
ones; of a value with both kinds the double quotes are written as entities. -/
def quoted (value : Text) : Text :=
  if value.contains '"' then
    if value.contains '\'' then
      '"' :: value.flatMap (fun c => if c = '"' then "&quot;".toList else [c]) ++ ['"']
    else '\'' :: value ++ ['\'']
  else '"' :: value ++ ['"']

/-- What stands after the name of an attribute. -/
def AttributeValue.render : AttributeValue → Text
  | .empty => []
  | .text parts => '=' :: quoted (parts.flatMap ValuePart.render)
  | .expression source => '=' :: braced source

/-- An attribute. -/
def Attribute.render (a : Attribute) : Text := a.name ++ a.value.render

/-- A tag up to its closing bracket. -/
def Tag.render (tag : Tag) : Text :=
  '<' :: tag.name ++ tag.attributes.flatMap fun a => ' ' :: a.render

namespace Node

mutual

/-- The text of a node. -/
def render : Node → Text
  | .element tag children _ =>
    if tag.selfClosing then tag.render ++ " />".toList
    else tag.render ++ '>' :: renderAll children ++ "</".toList ++ tag.name ++ ">".toList
  | .text value _ => value
  | .expression source _ => braced source
  | .comment _ _ => []

/-- The text of a list of nodes. -/
def renderAll : List Node → Text
  | [] => []
  | node :: nodes => render node ++ renderAll nodes

end

/-- The text of a list of nodes is that of its members, one after the other. -/
theorem renderAll_eq_flatMap (nodes : List Node) : renderAll nodes = nodes.flatMap render := by
  induction nodes with
  | nil => simp [renderAll]
  | cons node nodes ih => simp [renderAll, ih]

end Node

end OneFile.Markup
