import OneFile.Proofs.Markup.Tidy

/-!
# Written markup is read alike

What a source is read as can be written as text, and that text can be read again. Unless two things
go wrong, this gives a tree of the same shape, which is written as the same text: the tree that was
written, but for its comments and for the attribute values that only entities can spell.

What can go wrong is that two parts of the text make markup together that none of them holds. This
takes a comment between two texts, of which nothing is left, or an attribute at the end of an
opening tag that is a name alone and ends in a slash, with the closing bracket right behind it.

## Main definitions

* `OneFile.Markup.RendersApart` — nodes of which the parts stay apart when they are written.

## Main results

* `OneFile.Markup.renderAll_recastAll` — rereading values does not show in the text.
* `OneFile.Markup.State.readsBack_tidyOnto` — legible nodes are read back as tidy ones.
* `OneFile.Markup.parse_renderAll_of_parse` — the text of a tree that was read is read as that tree,
  tidied, and is its own text again.
* `OneFile.Markup.not_parse_renderAll_of_parse` — not so if the parts do not stay apart.
-/

namespace OneFile.Markup

open Node

/-! ### Rereading does not show -/

/-- What is written for a value that was reread is what was written for the value. -/
lemma AttributeValue.render_reread (v : AttributeValue) : v.reread.render = v.render := by
  cases v with
  | empty => rfl
  | expression source => rfl
  | text parts =>
    simp only [AttributeValue.reread, AttributeValue.render, flatMap_render_valueParts]
    generalize parts.flatMap ValuePart.render = value
    by_cases hboth : '"' ∈ value ∧ '\'' ∈ value
    · have hfree := double_notMem_betweenQuotes hboth
      have hquoted : quoted value = '"' :: betweenQuotes value ++ ['"'] := by
        simp [quoted, betweenQuotes, hboth.1, hboth.2]
      rw [hquoted]
      simp [quoted, hfree]
    · rw [betweenQuotes, if_neg hboth]

/-- A tag is written alike after a change of values that does not show in their text. -/
lemma Tag.render_recast {f : AttributeValue → AttributeValue} (hf : ∀ v, (f v).render = v.render)
    (tag : Tag) : (tag.recast f).render = tag.render := by
  simp [Tag.render, Tag.recast, List.flatMap_map, Attribute.render, Attribute.recast, hf]

mutual

/-- A node is written alike after a change of values that does not show in their text. -/
lemma render_recast {f : AttributeValue → AttributeValue} (hf : ∀ v, (f v).render = v.render)
    (node : Node) : (node.recast f).render = node.render := by
  cases node with
  | element tag children span =>
    have htag : (tag.recast f).name = tag.name := rfl
    have hclosed : (tag.recast f).selfClosing = tag.selfClosing := rfl
    simp only [Node.recast, Node.render, htag, hclosed, Tag.render_recast hf,
      renderAll_recastAll hf children]
  | text value span => rfl
  | expression source span => rfl
  | comment value span => rfl

/-- **Nodes are written alike after a change of values** that does not show in their text. -/
lemma renderAll_recastAll {f : AttributeValue → AttributeValue}
    (hf : ∀ v, (f v).render = v.render) (nodes : List Node) :
    renderAll (recastAll f nodes) = renderAll nodes := by
  cases nodes with
  | nil => rfl
  | cons node nodes =>
    rw [recastAll, renderAll, render_recast hf node, renderAll_recastAll hf nodes, renderAll]

end

/-! ### Parts that stay apart -/

/-- **The parts of the nodes stay apart** when they are written: among the nodes, and among the
children of every element at any depth, no two texts make markup where they meet, and the
attributes of an element that is not closed by its tag do not end in a slash. -/
structure RendersApart (nodes : List Node) : Prop where
  joins : JoinsSafely nodes
  below : ∀ (tag : Tag) (children : List Node) (span : Span),
    Node.Within (.element tag children span) nodes →
      JoinsSafely children ∧ (tag.selfClosing = false → ¬ EndsInSlash tag.attributes)

/-- The parts of the children of an element stay apart if those of the nodes around it do. -/
lemma RendersApart.children {nodes children : List Node} {tag : Tag} {span : Span}
    (h : RendersApart nodes) (hmem : .element tag children span ∈ nodes) :
    RendersApart children where
  joins := (h.below tag children span (.among hmem)).1
  below tag' children' span' hwithin := h.below tag' children' span' (.inside hmem hwithin)

namespace State

/-- The nodes of a tidy list are read back, if every node of the untidy list is that is left on its
own. -/
lemma readsBack_of_mem_tidyAll {nodes : List Node} (hlegible : ∀ node ∈ nodes, node.Legible)
    (hjoins : JoinsSafely nodes)
    (halone : ∀ original ∈ nodes, ∀ node ∈ original.tidyOnto [], ReadsBack node) :
    ∀ node ∈ tidyAll nodes, ReadsBack node := by
  intro node hnode
  cases htext : node.isText with
  | false =>
    obtain ⟨original, hmem, hnode⟩ := exists_mem_of_mem_tidyAll hnode htext
    exact halone original hmem node hnode
  | true =>
    obtain ⟨value, span, rfl⟩ : ∃ value span, node = .text value span := by
      cases node <;> simp_all [Node.isText]
    have hplain : ∀ value span, .text value span ∈ nodes → IsPlainText value := by
      intro value span hmem
      cases hlegible _ hmem with
      | text hvalue => exact hvalue
    exact readsBack_text (isPlainText_of_mem_tidyAll hplain hjoins hnode) span

/-- A raw body is tidy. -/
lemma tidyAll_of_isRawBody {name : Text} {children : List Node} (h : IsRawBody name children) :
    tidyAll children = children := by
  rcases h with rfl | ⟨body, span, rfl, -, -⟩
  · rfl
  · rfl

/-- **A legible node is read back as a tidy one**, if its parts stay apart.

**Proof sketch.** Induction on the node. The children of an element are read back one by one by
induction, with neighbouring texts joined to plain text, and no two texts of the tidy list are
neighbours. -/
theorem readsBack_tidyOnto {original : Node} (h : original.Legible) {nodes : List Node}
    (hmem : original ∈ nodes) (hapart : RendersApart nodes) :
    ∀ node ∈ original.tidyOnto [], ReadsBack node := by
  induction h generalizing nodes with
  | text hvalue => simpa [tidyOnto, consText] using readsBack_text hvalue _
  | expression hsource => simpa [tidyOnto] using readsBack_expression hsource _
  | comment => simp [tidyOnto]
  | closed htag hclosed => simpa [tidyOnto, tidyAll] using readsBack_closed htag hclosed _
  | raw htag hopen hraw hbody =>
    have hslash := (hapart.below _ _ _ (.among hmem)).2 hopen
    simpa [tidyOnto, tidyAll_of_isRawBody hbody] using
      readsBack_raw htag hopen hslash hraw hbody _
  | @element tag children span htag hopen hraw hchildren ih =>
    have hslash := (hapart.below _ _ _ (.among hmem)).2 hopen
    have hbelow := hapart.children hmem
    have hread : ∀ child ∈ tidyAll children, ReadsBack child :=
      readsBack_of_mem_tidyAll hchildren hbelow.joins fun child hchild =>
        ih child hchild hchild hbelow
    simpa [tidyOnto] using
      readsBack_element htag hopen hslash hraw (textsApart_tidyAll children) hread span

end State

/-! ### Whole sources -/

/-- **Written markup is read alike**, if its parts stay apart: what a source was read as is written
as a text that is read without an error, as the tree that was written, tidied and with its values
reread, up to spans; and this is written as the same text again.

**Proof sketch.** All that a source is read as is legible, so that the tidy nodes are read back.
They have the text of the nodes that were read, since neither tidying nor rereading shows. -/
theorem parse_renderAll_of_parse {source : Text} {document : Document}
    (h : parse source = .ok document) (hapart : RendersApart document.nodes) :
    ∃ document', parse (renderAll document.nodes) = .ok document' ∧
      renderAll document'.nodes = renderAll document.nodes ∧
      recastAll id document'.nodes =
        recastAll AttributeValue.reread (tidyAll document.nodes) := by
  have hlegible := legible_of_parse h
  have hread : ∀ node ∈ tidyAll document.nodes, State.ReadsBack node :=
    State.readsBack_of_mem_tidyAll hlegible hapart.joins fun node hnode =>
      State.readsBack_tidyOnto (hlegible node hnode) hnode hapart
  have hends : TextEnds [] := rfl
  obtain ⟨nodes', offset, hsame, hrun⟩ := State.run_renderAll_of_apart
    (textsApart_tidyAll document.nodes) hread [] [] 0 hends
  rw [State.run_end, List.append_nil, List.append_nil, List.reverse_reverse, renderAll_tidyAll]
    at hrun
  refine ⟨⟨nodes', ⟨0, (renderAll document.nodes).size⟩⟩, by rw [parse, hrun], ?_, hsame⟩
  calc renderAll nodes'
    _ = renderAll (recastAll id nodes') := (renderAll_recastAll (fun _ => rfl) nodes').symm
    _ = renderAll (recastAll AttributeValue.reread (tidyAll document.nodes)) := by rw [hsame]
    _ = renderAll (tidyAll document.nodes) :=
      renderAll_recastAll AttributeValue.render_reread _
    _ = renderAll document.nodes := renderAll_tidyAll _

/-- Text with a stray bracket before a comment, and a paragraph with an attribute whose name starts
with a slash and one whose value holds both kinds of quotes. -/
def strayNodes : List Node :=
  [.text "a<".toList ⟨0, 2⟩, .comment " b ".toList ⟨2, 12⟩, .text " c".toList ⟨12, 14⟩,
    .element ⟨"p".toList, [⟨"/d".toList, .empty, ⟨17, 19⟩⟩,
      ⟨"e".toList, .text [.text "f\"g'h".toList], ⟨20, 27⟩⟩], false⟩
      [.text "i".toList ⟨28, 29⟩] ⟨14, 33⟩]

/-- The parts of these nodes stay apart: a blank follows the stray bracket. -/
lemma rendersApart_strayNodes : RendersApart strayNodes := by
  refine ⟨by decide, fun tag children span h => ?_⟩
  rcases Node.within_cons.1 h with h | h
  · cases Node.eq_of_within rfl h
  rcases Node.within_cons.1 h with h | h
  · cases Node.eq_of_within rfl h
  rcases Node.within_cons.1 h with h | h
  · cases Node.eq_of_within rfl h
  rcases Node.within_element.1 h with heq | h
  · obtain ⟨rfl, rfl, rfl⟩ := Node.element.inj heq
    exact ⟨by decide, fun _ => by decide⟩
  · cases Node.eq_of_within rfl h

/-- The paragraph and the text before it are written without the comment, and with an entity for
the double quote. -/
theorem parse_renderAll_of_parse_stray :
    parse "a<<!-- b --> c<p /d e=f\"g'h>i</p>".toList = .ok ⟨strayNodes, ⟨0, 33⟩⟩ ∧
    renderAll strayNodes = "a< c<p /d e=\"f&quot;g'h\">i</p>".toList ∧
    ∃ document', parse (renderAll strayNodes) = .ok document' ∧
      renderAll document'.nodes = renderAll strayNodes ∧
      recastAll id document'.nodes = recastAll AttributeValue.reread (tidyAll strayNodes) := by
  have hparse : parse "a<<!-- b --> c<p /d e=f\"g'h>i</p>".toList =
      .ok ⟨strayNodes, ⟨0, 33⟩⟩ := by
    decide +kernel
  exact ⟨hparse, by decide +kernel, parse_renderAll_of_parse hparse rendersApart_strayNodes⟩

/-- **Written markup is not always read alike.** A bracket right behind a slash closes the tag, so
that the close tag after it closes nothing. And a bracket and a letter that a comment kept apart
open an element, which nothing closes. -/
theorem not_parse_renderAll_of_parse :
    (∃ document, parse "<p a/ ></p>".toList = .ok document ∧
      ∃ e, parse (renderAll document.nodes) = .error e) ∧
    ∃ document, parse "a<<!-- c -->p>b".toList = .ok document ∧
      ∃ e, parse (renderAll document.nodes) = .error e := by
  constructor
  · refine ⟨⟨[.element ⟨"p".toList, [⟨"a/".toList, .empty, ⟨3, 5⟩⟩], false⟩ [] ⟨0, 11⟩], ⟨0, 11⟩⟩,
      by decide +kernel, ⟨6, .unexpectedClosingTag "p".toList⟩, by decide +kernel⟩
  · refine ⟨⟨[.text "a<".toList ⟨0, 2⟩, .comment " c ".toList ⟨2, 12⟩, .text "p>b".toList ⟨12, 15⟩],
      ⟨0, 15⟩⟩, by decide +kernel, ⟨1, .unclosedElement "p".toList⟩, by decide +kernel⟩

end OneFile.Markup
