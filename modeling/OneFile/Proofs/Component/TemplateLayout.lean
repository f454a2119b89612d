import OneFile.Proofs.Component.Partition
import OneFile.Proofs.Component.Stylesheet
import OneFile.Proofs.Component.TemplateStrings
import OneFile.Proofs.Markup.Scoping
import OneFile.Proofs.Text.Indentation

/-!
# The layout of a template fits its markup

How a template is returned is decided on its nodes: by which of them show, and whether the one that
does is an element. What is returned is the markup of the nodes, laid out line by line with blank
lines dropped. The two agree: there is nothing to return just if the markup is blank, and a template
that is returned without a wrapping is one element.

## Main definitions

* `OneFile.TemplateShape.opening`, `OneFile.TemplateShape.closing` — what a template is wrapped in.
* `OneFile.TemplateShape.Fits` — what the shape of nodes says of their markup.
* `OneFile.writtenNodes` — the nodes of a template as they are written out.

## Main results

* `OneFile.Markup.blank_renderAll` — a node shows just if its text is not blank.
* `OneFile.Buckets.templateText_eq_onLines` — the returned template by its lines.
* `OneFile.layout_fits_markup` — the chosen layout agrees with what is rendered.
-/

namespace OneFile

open Markup Text

/-! ### Nodes that show -/

namespace Markup

/-- The markup of an element begins and ends with its brackets. -/
lemma exists_render_element (tag : Tag) (children : List Node) (span : Span) :
    ∃ middle : Text, (Node.element tag children span).render = '<' :: middle ++ ['>'] := by
  rw [Node.render]
  split_ifs
  · exact ⟨tag.name ++ tag.attributes.flatMap (fun a => ' ' :: a.render) ++ " /".toList,
      by simp [Tag.render]⟩
  · exact ⟨tag.name ++ tag.attributes.flatMap (fun a => ' ' :: a.render) ++
      '>' :: Node.renderAll children ++ "</".toList ++ tag.name, by simp [Tag.render]⟩

/-- **A node shows just if its text is not blank.** -/
theorem blank_render (node : Node) : node.render.blank = !node.isSignificant := by
  cases node with
  | element tag children span =>
    obtain ⟨middle, hrender⟩ := exists_render_element tag children span
    rw [hrender]
    rfl
  | text value span => simp [Node.render, Node.isSignificant]
  | expression source span => rfl
  | comment value span => rfl

/-- Nodes show just if their markup is not blank. -/
theorem blank_renderAll (nodes : List Node) :
    (Node.renderAll nodes).blank = true ↔ nodes.filter Node.isSignificant = [] := by
  induction nodes with
  | nil => simp [Node.renderAll, blank]
  | cons node nodes ih =>
    rw [Node.renderAll, blank_append, Bool.and_eq_true, ih, blank_render, List.filter_cons]
    cases node.isSignificant <;> simp

/-- The markup of nodes after others comes after theirs. -/
lemma renderAll_append (nodes nodes' : List Node) :
    Node.renderAll (nodes ++ nodes') = Node.renderAll nodes ++ Node.renderAll nodes' := by
  simp [Node.renderAll_eq_flatMap]

end Markup

namespace TemplateShape

variable {nodes nodes' : List Node}

/-! ### The shape of nodes -/

/-- There is nothing to return just if no node shows. -/
lemma ofNodes_eq_empty_iff : ofNodes nodes = .empty ↔ nodes.filter Node.isSignificant = [] := by
  unfold ofNodes
  split
  · simp [*]
  · split_ifs <;> simp [*]
  · rename_i hne _
    simpa using hne

/-- An element is returned bare just if it is all that shows. -/
lemma ofNodes_eq_element_iff : ofNodes nodes = .element ↔
    ∃ tag children span, nodes.filter Node.isSignificant = [.element tag children span] := by
  unfold ofNodes
  split
  · simp [*]
  · rename_i node hnode
    rw [hnode]
    cases node <;> simp [Node.isElement]
  · rename_i hne
    refine iff_of_false (by simp) ?_
    rintro ⟨tag, children, span, hshown⟩
    exact hne _ hshown

/-- Nodes of which the same ones show have the same shape. -/
lemma ofNodes_congr (h : nodes.filter Node.isSignificant = nodes'.filter Node.isSignificant) :
    ofNodes nodes = ofNodes nodes' := by
  rw [ofNodes, ofNodes, h]

/-- The blank text that sorting drops does not show. -/
lemma filter_dropWhile_isBlankText (nodes : List Node) :
    (nodes.dropWhile Node.isBlankText).filter Node.isSignificant =
      nodes.filter Node.isSignificant := by
  induction nodes with
  | nil => rfl
  | cons node nodes ih =>
    cases hblank : node.isBlankText with
    | false => rw [List.dropWhile_cons_of_neg (by simp [hblank])]
    | true =>
      have hhidden : ¬ node.isSignificant = true := by
        cases node with
        | text value span => simpa [Node.isSignificant, Node.isBlankText] using hblank
        | element => cases hblank
        | expression => cases hblank
        | comment => cases hblank
      rw [List.dropWhile_cons_of_pos hblank, ih, List.filter_cons_of_neg hhidden]

/-- **Sorting keeps the shape** of nodes without scripts and styles. -/
lemma ofNodes_template (h : ∀ node ∈ nodes, node.isOther = true) :
    ofNodes (Parts.ofNodes nodes).template = ofNodes nodes := by
  refine ofNodes_congr ?_
  have hall : nodes.filter isTemplate = nodes :=
    List.filter_eq_self.2 fun node hnode => (isTemplate_eq_isOther node).trans (h node hnode)
  show ((nodes.filter isTemplate).dropWhile Node.isBlankText).filter Node.isSignificant = _
  rw [hall, filter_dropWhile_isBlankText]

/-- **Scoping keeps the shape**: it changes the tags of nodes and nothing else. -/
lemma ofNodes_scopeTemplate (id : Text) (nodes : List Node) :
    ofNodes (scopeTemplate id nodes) = ofNodes nodes := by
  have hshown : ∀ node : Node,
      (node.scope (scopeAttribute id)).isSignificant = node.isSignificant := by
    intro node
    cases node <;> simp [Node.scope, Node.isSignificant]
  have helement : ∀ node : Node, (node.scope (scopeAttribute id)).isElement = node.isElement := by
    intro node
    cases node <;> simp [Node.scope, Node.isElement]
  have hfilter : (scopeTemplate id nodes).filter Node.isSignificant =
      (nodes.filter Node.isSignificant).map (Node.scope (scopeAttribute id)) := by
    rw [scopeTemplate, Node.scopeAll_eq_map, List.filter_map]
    exact congrArg (fun p => (nodes.filter p).map _) (funext hshown)
  rw [ofNodes, ofNodes, hfilter]
  rcases nodes.filter Node.isSignificant with _ | ⟨node, _ | ⟨node', rest⟩⟩
  · rfl
  · simp [helement]
  · rfl

/-- **The shape of nodes fits their markup.** The shape is empty just if the markup is blank, which
is just if nothing is left of it by indenting. Where it is that of an element, the nodes have one
element, nothing else shows, and the markup is that of the element but for blanks around it. Where
it is a fragment, indenting leaves something. Neither sorting, if there are no scripts and styles,
nor scoping changes the shape. -/
structure Fits (nodes : List Node) : Prop where
  blank_iff : ofNodes nodes = .empty ↔ (Node.renderAll nodes).blank = true
  indent_iff : ∀ n, ofNodes nodes = .empty ↔ (Node.renderAll nodes).indent n = []
  element : ofNodes nodes = .element → ∃ before tag children span after,
    nodes = before ++ .element tag children span :: after ∧
    (∀ node ∈ before ++ after, node.isSignificant = false) ∧
    (Node.renderAll nodes).trim = (Node.element tag children span).render
  fragment : ofNodes nodes = .fragment → ∀ n, (Node.renderAll nodes).indent n ≠ []
  sorted : (∀ node ∈ nodes, node.isOther = true) →
    ofNodes (Parts.ofNodes nodes).template = ofNodes nodes
  scoping : ∀ id, ofNodes (scopeTemplate id nodes) = ofNodes nodes

/-- A lone element is what trimming leaves of the markup. -/
lemma exists_element (h : ofNodes nodes = .element) : ∃ before tag children span after,
    nodes = before ++ .element tag children span :: after ∧
    (∀ node ∈ before ++ after, node.isSignificant = false) ∧
    (Node.renderAll nodes).trim = (Node.element tag children span).render := by
  obtain ⟨tag, children, span, hshown⟩ := ofNodes_eq_element_iff.1 h
  obtain ⟨before, after, rfl, hbefore, -, hafter⟩ := List.filter_eq_cons_iff.1 hshown
  have hbefore' := List.filter_eq_nil_iff.2 hbefore
  refine ⟨before, tag, children, span, after, rfl, ?_, ?_⟩
  · refine List.forall_mem_append.2 ⟨fun node hnode => ?_, fun node hnode => ?_⟩
    · exact Bool.eq_false_iff.2 (hbefore node hnode)
    · exact Bool.eq_false_iff.2 (List.filter_eq_nil_iff.1 hafter node hnode)
  · obtain ⟨middle, hrender⟩ := exists_render_element tag children span
    rw [renderAll_append, Node.renderAll, hrender, ← List.append_assoc]
    exact trim_append_append ((blank_renderAll before).2 hbefore')
      ((blank_renderAll after).2 hafter) rfl rfl middle

/-- The shape of any nodes fits their markup. -/
theorem fits (nodes : List Node) : Fits nodes where
  blank_iff := ofNodes_eq_empty_iff.trans (blank_renderAll nodes).symm
  indent_iff _ :=
    (ofNodes_eq_empty_iff.trans (blank_renderAll nodes).symm).trans indent_eq_nil_iff.symm
  element := exists_element
  fragment h n hnil := by
    rw [ofNodes_eq_empty_iff.2 ((blank_renderAll nodes).1 (indent_eq_nil_iff.1 hnil))] at h
    cases h
  sorted := ofNodes_template
  scoping id := ofNodes_scopeTemplate id nodes

/-! ### The returned template -/

/-- The lines before the markup of a returned template. -/
def opening : TemplateShape → List Text
  | .empty => ["    <></>".toList]
  | .element => []
  | .fragment => ["    <>".toList]

/-- The lines after the markup of a returned template. -/
def closing : TemplateShape → List Text
  | .empty | .element => []
  | .fragment => ["    </>".toList]

end TemplateShape

/-- **A returned template by its lines**: those of its markup that are not blank, in order and after
the margin of the shape, between the lines that wrap them.

**Proof sketch.** Where the shape is empty the markup is blank and there are no such lines.
Elsewhere there is one, so that the indented markup is not empty. -/
theorem Buckets.templateText_eq_onLines {b : Buckets} {nodes : List Node}
    (hshape : b.shape = .ofNodes nodes)
    (htext : b.template.flatMap Piece.text = Node.renderAll nodes) :
    b.templateText = onLines (b.shape.opening ++
      indentLines b.shape.margin (Node.renderAll nodes).lines ++ b.shape.closing) := by
  have hfits := TemplateShape.fits nodes
  have hbody : ∀ n, TemplateShape.ofNodes nodes ≠ .empty →
      (Node.renderAll nodes).indent n ++ ['\n'] =
        onLines (indentLines n (Node.renderAll nodes).lines) := by
    intro n hne
    refine unlines_append_newline fun hnil => hne (hfits.blank_iff.2 ?_)
    exact indentLines_eq_nil_iff.1 hnil
  rw [templateText, hshape, htext]
  cases hcase : TemplateShape.ofNodes nodes with
  | empty =>
    have hnone : ∀ n, indentLines n (Node.renderAll nodes).lines = [] := fun n =>
      indentLines_eq_nil_iff.2 (hfits.blank_iff.1 hcase)
    rw [hnone]
    rfl
  | element =>
    have hlines := hbody 4 (by rw [hcase]; simp)
    rw [TemplateShape.opening, TemplateShape.closing, List.append_nil]
    exact hlines
  | fragment =>
    have hlines := hbody 6 (by rw [hcase]; simp)
    have hne : ¬ ((Node.renderAll nodes).indent 6).isEmpty = true := by
      rw [List.isEmpty_iff]
      exact hfits.fragment hcase 6
    dsimp only
    rw [if_neg hne, hlines]
    simp [TemplateShape.opening, TemplateShape.closing, TemplateShape.margin, onLines]

/-! ### Compiling -/

/-- The nodes of a template as they are written out: scoped if there is an id. -/
def writtenNodes (scopeId : Option Text) (nodes : List Node) : List Node :=
  match scopeId with
  | some id => scopeTemplate id nodes
  | none => nodes

/-- Writing nodes out keeps their shape. -/
lemma TemplateShape.ofNodes_writtenNodes (scopeId : Option Text) (nodes : List Node) :
    TemplateShape.ofNodes (writtenNodes scopeId nodes) = TemplateShape.ofNodes nodes := by
  cases scopeId with
  | none => rfl
  | some id => exact ofNodes_scopeTemplate id nodes

/-- **The layout of a template fits its markup.** For all nodes, the shape that their template is
returned in agrees with what their markup shows. So a component that compiles returns all of the
markup of its template, scoped or not: every line of it that is not blank stands on a line of its
own, in order and after the same margin. The template stands alone only if it is one element and
nothing else shows, where it is empty only `<></>` stands for it, and anything else is wrapped.

**Proof sketch.** A node shows just if its text is not blank, and indenting drops blank lines only.
The shape is chosen before the nodes are scoped, which does not change it. -/
theorem layout_fits_markup : (∀ nodes, TemplateShape.Fits nodes) ∧
    ∀ {readers : Readers} {options : CompileOptions} {fresh source : Text}
      {output : CompileOutput},
      compile options fresh source readers = .ok output → ∃ document before returned,
        parse source = .ok document ∧
        output.code = before ++ "  return (\n".toList ++ returned ++ "  );\n\x7d\n".toList ∧
        let nodes := writtenNodes (options.scopeId? fresh source)
          (Parts.ofNodes document.nodes).template
        let shape := TemplateShape.ofNodes nodes
        returned = onLines (shape.opening ++
          indentLines shape.margin (Node.renderAll nodes).lines ++ shape.closing) := by
  refine ⟨TemplateShape.fits, fun {readers options fresh source output} h => ?_⟩
  obtain ⟨document, b, hparse, hfill, rfl⟩ := compile_eq_ok h
  obtain ⟨-, -, -, hshape, htemplate⟩ := exists_openingText hfill
  refine ⟨document, b.openingText, b.templateText, hparse, ?_, ?_⟩
  · rw [Buckets.openingText]
    simp [Buckets.moduleText]
  · dsimp only
    rw [← TemplateShape.ofNodes_writtenNodes (options.scopeId? fresh source)] at hshape
    rw [← hshape]
    refine Buckets.templateText_eq_onLines hshape ?_
    rw [htemplate, text_templatePieces]
    cases options.scopeId? fresh source <;> rfl

/-- A comment, an element and an expression: two of them show, so they are wrapped, and the blank
text around them is dropped. -/
theorem layout_fits_markup_fragment : ∃ document before returned,
    compile { scope := true, id := some "q".toList } []
      "<!--c-->\n<p>a</p>\n\x7bb\x7d\n".toList = .ok
        ⟨before ++ "  return (\n".toList ++ returned ++ "  );\n\x7d\n".toList, []⟩ ∧
    parse "<!--c-->\n<p>a</p>\n\x7bb\x7d\n".toList = .ok document ∧
    TemplateShape.ofNodes (Parts.ofNodes document.nodes).template = .fragment ∧
    returned = onLines ["    <>".toList, "      <p data-scope-q>a</p>".toList,
      "      \x7bb\x7d".toList, "    </>".toList] := by
  have hcompile : compile { scope := true, id := some "q".toList } []
      "<!--c-->\n<p>a</p>\n\x7bb\x7d\n".toList = .ok
      ⟨("export default function(props) \x7b\n  return (\n    <>\n" ++
        "      <p data-scope-q>a</p>\n      \x7bb\x7d\n    </>\n  );\n\x7d\n").toList, []⟩ := by
    decide +kernel
  have hparse : parse "<!--c-->\n<p>a</p>\n\x7bb\x7d\n".toList = .ok
      ⟨[.comment "c".toList ⟨0, 8⟩, .text "\n".toList ⟨8, 9⟩,
        .element ⟨"p".toList, [], false⟩ [.text "a".toList ⟨12, 13⟩] ⟨9, 17⟩,
        .text "\n".toList ⟨17, 18⟩, .expression "b".toList ⟨18, 21⟩,
        .text "\n".toList ⟨21, 22⟩], ⟨0, 22⟩⟩ := by
    decide +kernel
  obtain ⟨document, before, returned, hdocument, hcode, hreturned⟩ := layout_fits_markup.2 hcompile
  rw [hparse, Except.ok.injEq] at hdocument
  subst hdocument
  refine ⟨_, before, returned, ?_, hparse, by decide +kernel, ?_⟩
  · rw [hcompile]
    dsimp only at hcode
    rw [hcode]
  · rw [hreturned]
    decide +kernel

end OneFile
