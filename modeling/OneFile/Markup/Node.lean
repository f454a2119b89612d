import OneFile.Text.Blank
import OneFile.Span

/-!
# Markup trees

A component source is read as a list of nodes: elements, text, expression tags in braces and
comments. Names keep the case they are written in, and every node knows its span.

## Main definitions

* `OneFile.Markup.Attribute`, `OneFile.Markup.AttributeValue`, `OneFile.Markup.ValuePart`
* `OneFile.Markup.Tag` — what stands between the angle brackets that open an element.
* `OneFile.Markup.Node` — a tree.
* `OneFile.Markup.Element` — a node that is an element, with its parts named.
* `OneFile.Markup.isVoid` — elements that never have children.
-/

namespace OneFile.Markup

/-- A stretch of a quoted attribute value. -/
inductive ValuePart where
  /-- Literal characters. -/
  | text (value : Text)
  /-- An expression, without its braces. -/
  | expression (source : Text)
deriving DecidableEq, Repr

/-- What an attribute is set to. -/
inductive AttributeValue where
  /-- The name alone. -/
  | empty
  /-- A quoted or bare value. -/
  | text (parts : List ValuePart)
  /-- A braced expression, without its braces. -/
  | expression (source : Text)
deriving DecidableEq, Repr

/-- A name with its value. -/
structure Attribute where
  name : Text
  value : AttributeValue
  span : Span := {}
deriving DecidableEq, Repr

/-- A name that is merely present, at no place in any source. -/
def Attribute.present (name : Text) : Attribute := { name, value := .empty }

/-- The opening of an element. -/
structure Tag where
  name : Text
  attributes : List Attribute
  /-- Closed by its own opening: written so, or void. -/
  selfClosing : Bool
deriving DecidableEq, Repr

namespace Tag

/-- The first attribute of that name. -/
def attribute? (tag : Tag) (name : Text) : Option Attribute :=
  tag.attributes.find? fun a => a.name = name

/-- Whether an attribute of that name is there. -/
def hasAttribute (tag : Tag) (name : Text) : Bool := (tag.attribute? name).isSome

end Tag

/-- A node of a markup tree. -/
inductive Node where
  | element (tag : Tag) (children : List Node) (span : Span)
  | text (value : Text) (span : Span)
  /-- An expression in braces, kept without them. -/
  | expression (source : Text) (span : Span)
  | comment (value : Text) (span : Span)
deriving Repr

namespace Node

/-! ### Equality of trees is decidable -/

mutual

/-- Whether two nodes are equal. -/
protected def decEq : (a b : Node) → Decidable (a = b)
  | .element t cs s, .element t' cs' s' =>
    have := Node.decEqList cs cs'
    decidable_of_iff (t = t' ∧ cs = cs' ∧ s = s') (by simp)
  | .text v s, .text v' s' => decidable_of_iff (v = v' ∧ s = s') (by simp)
  | .expression v s, .expression v' s' => decidable_of_iff (v = v' ∧ s = s') (by simp)
  | .comment v s, .comment v' s' => decidable_of_iff (v = v' ∧ s = s') (by simp)
  | .element .., .text .. | .element .., .expression .. | .element .., .comment ..
  | .text .., .element .. | .text .., .expression .. | .text .., .comment ..
  | .expression .., .element .. | .expression .., .text .. | .expression .., .comment ..
  | .comment .., .element .. | .comment .., .text .. | .comment .., .expression .. =>
    .isFalse (by simp)

/-- Whether two lists of nodes are equal. -/
protected def decEqList : (a b : List Node) → Decidable (a = b)
  | [], [] => .isTrue rfl
  | a :: as, b :: bs =>
    have := Node.decEq a b
    have := Node.decEqList as bs
    decidable_of_iff (a = b ∧ as = bs) (by simp)
  | [], _ :: _ | _ :: _, [] => .isFalse (by simp)

end

/-- Nodes can be compared. -/
instance : DecidableEq Node := Node.decEq

/-! ### Reading off a node -/

/-- Where the node stands in its source. -/
def span : Node → Span
  | .element _ _ s | .text _ s | .expression _ s | .comment _ s => s

/-- Text of blank characters only. -/
def isBlankText : Node → Bool
  | .text value _ => value.blank
  | _ => false

/-- Whether the node shows in the output: elements, expressions and text that is not blank. -/
def isSignificant : Node → Bool
  | .element .. | .expression .. => true
  | .text value _ => !value.blank
  | .comment .. => false

/-- Whether the node is an element. -/
def isElement : Node → Bool
  | .element .. => true
  | _ => false

end Node

/-- An element on its own. -/
structure Element where
  tag : Tag
  children : List Node
  span : Span
deriving DecidableEq, Repr

namespace Element

/-- The stretch from the first child to the last one; none when there are no children. -/
def contentSpan? (e : Element) : Option Span :=
  match e.children.head?, e.children.getLast? with
  | some first, some last => some ⟨first.span.start, last.span.stop⟩
  | _, _ => none

end Element

/-- A parsed source. -/
structure Document where
  nodes : List Node
  span : Span
deriving DecidableEq, Repr

/-! ### Element names with rules of their own -/

/-- The elements that never have children or a close tag, in lower case. -/
def voidNames : List Text :=
  ["area", "base", "br", "col", "embed", "hr", "img", "input", "link", "meta", "param", "source",
    "track", "wbr"].map String.toList

/-- Whether elements of this name are void, in whatever case it is written. -/
def isVoid (name : Text) : Bool := voidNames.contains name.lower

/-- Whether the body of such an element is read as it stands, up to its close tag. -/
def isRaw (name : Text) : Bool := name == "script".toList || name == "style".toList

end OneFile.Markup
