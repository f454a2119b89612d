import Mathlib.Data.List.Chain
import OneFile.Markup.Parser
import OneFile.Proofs.Markup.Brace

/-!
# How markup stands in its source

A tree is *faithful* to a source when every byte of the source is accounted for by the part of
the tree whose span it lies in. This module says what that means for each part of a tree.

## Main definitions

* `OneFile.Markup.AttributeValue.Written`, `OneFile.Markup.Attribute.Spelling` — the texts that a
  value and an attribute can be written as.
* `OneFile.Markup.Attribute.Stands`, `OneFile.Markup.Tag.Stands` — an attribute and an opening tag
  at their place in a source.
* `OneFile.Markup.Tiles` — spans that cover a stretch without gaps and overlaps.
* `OneFile.Markup.Node.Stands` — a node, with everything below it, at its place in a source.
* `OneFile.Markup.Siblings` — a list of nodes that makes up a stretch of a source.
* `OneFile.Markup.Node.Within` — a node at any depth.

## Main results

* `OneFile.Markup.Siblings.concat` — siblings are continued by a node that starts where they end.
-/

namespace OneFile.Markup

/-! ### Attributes -/

/-- The texts that a value can be written as, after the equals sign and the blanks around it. -/
inductive AttributeValue.Written : AttributeValue → Text → Prop
  /-- Between quotes of one kind, with none of that kind in between. -/
  | quoted {quote : Char} {parts : List ValuePart} (hquote : quote = '"' ∨ quote = '\'')
      (hfree : quote ∉ parts.flatMap ValuePart.render) :
      Written (.text parts) (quote :: parts.flatMap ValuePart.render ++ [quote])
  /-- As it is, without blanks and closing brackets. -/
  | bare {value : Text} (hfree : ∀ c ∈ value, Text.isSpace c = false ∧ c ≠ '>') :
      Written (.text [.text value]) value
  | braced {source : Text} : Written (.expression source) (braced source)

/-- The texts that an attribute can be written as: its name alone, or its name, an equals sign
with blanks around it and the value. -/
inductive Attribute.Spelling (a : Attribute) : Text → Prop
  | alone (hvalue : a.value = .empty) : Spelling a a.name
  | valued {before after written : Text} (hbefore : before.all Text.isSpace)
      (hafter : after.all Text.isSpace) (hvalue : a.value.Written written) :
      Spelling a (a.name ++ before ++ '=' :: after ++ written)

/-- **An attribute stands in a source** where its span says, in one of its spellings. -/
def Attribute.Stands (source : Text) (a : Attribute) : Prop :=
  a.name ≠ [] ∧ ∃ written, a.Spelling written ∧ a.span.Names source written

/-- **The attributes of a tag stand in a source** from byte `start` on, in order and with nothing
but blanks before each of them, and the mark that closes the tag ends at byte `stop`. -/
inductive AttributesStand (source mark : Text) : List Attribute → Nat → Nat → Prop
  | close {start stop : Nat} {gap : Text} (hgap : gap.all Text.isSpace)
      (hnames : Span.Names source ⟨start, stop⟩ (gap ++ mark)) :
      AttributesStand source mark [] start stop
  | cons {a : Attribute} {as : List Attribute} {start stop : Nat} {gap : Text}
      (hgap : gap.all Text.isSpace) (hnames : Span.Names source ⟨start, a.span.start⟩ gap)
      (ha : a.Stands source) (has : AttributesStand source mark as a.span.stop stop) :
      AttributesStand source mark (a :: as) start stop

/-- The mark that ends an opening tag, by whether it closes the element. -/
def closingMark (closed : Bool) : Text := if closed then "/>".toList else ">".toList

/-- **An opening tag stands in a source** between two bytes: a bracket, the name, the attributes
and the closing mark. It closes its element by that mark or because the element is void. -/
def Tag.Stands (source : Text) (tag : Tag) (start stop : Nat) : Prop :=
  ∃ nameStop closed, Span.Names source ⟨start, nameStop⟩ ('<' :: tag.name) ∧
    AttributesStand source (closingMark closed) tag.attributes nameStop stop ∧
    tag.selfClosing = (closed || isVoid tag.name)

/-! ### Nodes -/

/-- The spans, none of them empty, cover the stretch from `start` to `stop` in their order,
without gaps and overlaps. -/
def Tiles : Nat → List Span → Nat → Prop
  | start, [], stop => start = stop
  | start, span :: spans, stop =>
    span.start = start ∧ start < span.stop ∧ Tiles span.stop spans stop

/-- Whether the node is text. -/
def Node.isText : Node → Bool
  | .text .. => true
  | _ => false

/-- No two neighbours are both text. -/
def TextsApart (nodes : List Node) : Prop :=
  nodes.IsChain fun a b => ¬ (a.isText = true ∧ b.isText = true)

/-- **A node stands in a source** where its span says: text as it is, expressions in their braces,
comments between their marks, and an element as its opening tag, followed, unless it closes
itself, by its children and its close tag. -/
inductive Node.Stands (source : Text) : Node → Prop
  | text {value : Text} {span : Span} (hne : value ≠ []) (hnames : span.Names source value) :
      Stands source (.text value span)
  | expression {e : Text} {span : Span} (hnames : span.Names source (braced e)) :
      Stands source (.expression e span)
  | comment {value : Text} {span : Span}
      (hnames : span.Names source ("<!--".toList ++ value ++ "-->".toList)) :
      Stands source (.comment value span)
  | declaration {value : Text} {span : Span}
      (hnames : span.Names source ("<!".toList ++ value ++ ">".toList)) :
      Stands source (.comment value span)
  | closed {tag : Tag} {span : Span} (htag : tag.Stands source span.start span.stop)
      (hclosed : tag.selfClosing = true) : Stands source (.element tag [] span)
  | element {tag : Tag} {children : List Node} {span : Span} {opened closed : Nat} {gap : Text}
      (htag : tag.Stands source span.start opened) (hopen : tag.selfClosing = false)
      (htiles : Tiles opened (children.map Node.span) closed) (hapart : TextsApart children)
      (hchildren : ∀ child ∈ children, Stands source child) (hgap : gap.all Text.isSpace)
      (hnames : Span.Names source ⟨closed, span.stop⟩
        ("</".toList ++ tag.name ++ gap ++ ">".toList)) :
      Stands source (.element tag children span)

/-- **Siblings make up a stretch** of a source: their spans tile it, each one stands in the source,
and no two texts are neighbours. -/
structure Siblings (source : Text) (start : Nat) (nodes : List Node) (stop : Nat) : Prop where
  tiles : Tiles start (nodes.map Node.span) stop
  apart : TextsApart nodes
  stand : ∀ node ∈ nodes, node.Stands source

/-! ### Nodes at any depth -/

/-- **A node within others**: one of them, or a node below one of them. -/
inductive Node.Within (node : Node) : List Node → Prop
  | among {nodes : List Node} (h : node ∈ nodes) : Within node nodes
  | inside {nodes children : List Node} {tag : Tag} {span : Span}
      (hparent : .element tag children span ∈ nodes) (h : Within node children) :
      Within node nodes

/-- A node below nodes that stand in a source stands in it, too. -/
lemma Node.Within.stands {source : Text} {node : Node} {nodes : List Node} (h : node.Within nodes)
    (hstand : ∀ n ∈ nodes, n.Stands source) : node.Stands source := by
  induction h with
  | among h => exact hstand _ h
  | inside hparent _ ih =>
    refine ih fun child hchild => ?_
    cases hstand _ hparent with
    | closed => exact absurd hchild (List.not_mem_nil)
    | element _ _ _ _ hchildren => exact hchildren child hchild

/-! ### Stretches go forwards -/

/-- The attributes of a tag end no earlier than they start. -/
lemma AttributesStand.start_le_stop {source mark : Text} {as : List Attribute} {start stop : Nat}
    (h : AttributesStand source mark as start stop) : start ≤ stop := by
  induction h with
  | close _ hnames => exact hnames.start_le_stop
  | cons _ hnames ha _ ih =>
    obtain ⟨-, _, -, hspan⟩ := ha
    exact (hnames.start_le_stop.trans hspan.start_le_stop).trans ih

/-- An opening tag is not empty. -/
lemma Tag.Stands.start_lt_stop {source : Text} {tag : Tag} {start stop : Nat}
    (h : tag.Stands source start stop) : start < stop := by
  obtain ⟨nameStop, closed, hname, has, -⟩ := h
  have hstop : nameStop = start + Text.size ('<' :: tag.name) := hname.stop_eq
  have hpos : 0 < Text.size ('<' :: tag.name) := Text.size_pos (by simp)
  have hle := has.start_le_stop
  omega

/-- Tiles end no earlier than they start. -/
lemma Tiles.start_le_stop {start stop : Nat} {spans : List Span} (h : Tiles start spans stop) :
    start ≤ stop := by
  induction spans generalizing start with
  | nil => exact Nat.le_of_eq h
  | cons span spans ih => exact h.2.1.le.trans (ih h.2.2)

/-! ### Lists that grow at their end -/

/-- Spans that cover a stretch cover a longer one with a span that starts at its end. -/
lemma Tiles.concat {start mid : Nat} {spans : List Span} {span : Span}
    (h : Tiles start spans mid) (hstart : span.start = mid) (hlt : mid < span.stop) :
    Tiles start (spans ++ [span]) span.stop := by
  induction spans generalizing start with
  | nil =>
    obtain rfl : start = mid := h
    exact ⟨hstart, hlt, rfl⟩
  | cons s spans ih => exact ⟨h.1, h.2.1, ih h.2.2⟩

/-- No siblings make up the empty stretch. -/
lemma Siblings.nil (source : Text) (start : Nat) : Siblings source start [] start :=
  ⟨rfl, .nil, by simp⟩

/-- Siblings are continued by a node that starts where they end, unless it makes two texts
neighbours. -/
lemma Siblings.concat {source : Text} {start mid : Nat} {nodes : List Node} {node : Node}
    (h : Siblings source start nodes mid) (hstart : node.span.start = mid)
    (hlt : mid < node.span.stop) (hnode : node.Stands source)
    (hapart : ∀ last ∈ nodes.getLast?, ¬ (last.isText = true ∧ node.isText = true)) :
    Siblings source start (nodes ++ [node]) node.span.stop where
  tiles := by
    rw [List.map_append]
    exact h.tiles.concat hstart hlt
  apart := by
    refine List.isChain_append.2 ⟨h.apart, .singleton _, fun last hlast first hfirst => ?_⟩
    obtain rfl : node = first := by simpa using hfirst
    exact hapart last hlast
  stand := by
    intro n hn
    rcases List.mem_append.1 hn with hn | hn
    · exact h.stand n hn
    · rw [List.mem_singleton.1 hn]
      exact hnode

end OneFile.Markup
