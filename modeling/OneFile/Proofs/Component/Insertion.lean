import OneFile.Proofs.Component.Hoisting
import OneFile.Proofs.Markup.RoundTrip
import OneFile.Proofs.Markup.Scoping
import OneFile.Proofs.Text.Draft

/-!
# Scoping inserts attributes

A component that is compiled with scoping differs from the same one without scoping by nothing
but the scope attribute in the opening tags of its template.

## Main definitions

* `OneFile.Markup.Node.draft` — the text of a node with a gap in every opening tag that an attribute
  is to go into.
* `OneFile.Markup.Node.tags` — the tags of a node and of everything below it.
* `OneFile.templateDraft`, `OneFile.moduleDraft` — the returned template and the module around it.

## Main results

* `OneFile.Markup.fill_draft`, `OneFile.Markup.fill_draft_scope` — plain and scoped nodes are
  written as one draft, filled in two ways.
* `OneFile.Markup.gaps_draft` — there is one gap for every element without the attribute.
* `OneFile.Buckets.templateText_eq_fill` — laying out the template keeps gaps as they are.
* `OneFile.compile_scope_inserts` — the two modules are one draft, filled in two ways.
-/

namespace OneFile

namespace Markup

/-! ### Nodes with gaps -/

/-- The text of a tag up to its end, and a gap for the attribute `name` if it is not there yet. -/
def Tag.draft (name : Text) (tag : Tag) : Draft Tag :=
  Draft.ofText tag.render ++ if tag.hasAttribute name then [] else [.gap tag]

namespace Node

mutual

/-- The text of a node, with a gap for the attribute `name` right before the end of every opening
tag that does not have it yet. -/
def draft (name : Text) : Node → Draft Tag
  | .element tag children _ =>
    if tag.selfClosing then tag.draft name ++ Draft.ofText (tagEnd true)
    else tag.draft name ++ Draft.ofText (tagEnd false) ++ draftAll name children ++
      Draft.ofText ("</".toList ++ tag.name ++ ">".toList)
  | .text value _ => Draft.ofText value
  | .expression source _ => Draft.ofText (braced source)
  | .comment _ _ => []

/-- The text of nodes with such gaps. -/
def draftAll (name : Text) : List Node → Draft Tag
  | [] => []
  | node :: nodes => draft name node ++ draftAll name nodes

end

mutual

/-- The tags of a node and of everything below it, in the order in which they open. -/
def tags : Node → List Tag
  | .element tag children _ => tag :: tagsAll children
  | .text .. | .expression .. | .comment .. => []

/-- The tags of nodes and of everything below them, in the order in which they open. -/
def tagsAll : List Node → List Tag
  | [] => []
  | node :: nodes => tags node ++ tagsAll nodes

end

end Node

variable {name : Text}

/-! ### Two ways to fill the gaps -/

/-- A draft of a tag without anything in its gap is the tag. -/
lemma Tag.fill_draft (tag : Tag) : (tag.draft name).fill [] = tag.render := by
  unfold Tag.draft
  split_ifs <;> simp

/-- The scope attribute comes last in a tag. -/
lemma Tag.fill_draft_scope (tag : Tag) :
    (tag.draft name).fill (' ' :: name) = (tag.scope name).render := by
  unfold Tag.draft Tag.scope
  split_ifs <;> simp [Tag.render, Attribute.present, Attribute.render, AttributeValue.render]

mutual

/-- **With nothing in its gaps a node is written as it is.** -/
lemma fill_draft (node : Node) : (node.draft name).fill [] = node.render := by
  cases node with
  | element tag children span =>
    simp only [Node.draft, Node.render]
    split_ifs
    · simp [Tag.fill_draft, tagEnd]
    · simp [Tag.fill_draft, fill_draftAll children, tagEnd]
  | text value span => simp [Node.draft, Node.render]
  | expression source span => simp [Node.draft, Node.render]
  | comment value span => rfl

/-- With nothing in its gaps a list of nodes is written as it is. -/
lemma fill_draftAll (nodes : List Node) :
    (Node.draftAll name nodes).fill [] = Node.renderAll nodes := by
  cases nodes with
  | nil => rfl
  | cons node nodes =>
    rw [Node.draftAll, Node.renderAll, Draft.fill_append, fill_draft node, fill_draftAll nodes]

end

mutual

/-- **With the attribute in its gaps a node is written as it is when scoped.** -/
lemma fill_draft_scope (node : Node) :
    (node.draft name).fill (' ' :: name) = (node.scope name).render := by
  cases node with
  | element tag children span =>
    simp only [Node.draft, Node.scope, Node.render, Tag.selfClosing_scope, Tag.name_scope]
    split_ifs
    · simp [Tag.fill_draft_scope, tagEnd]
    · simp [Tag.fill_draft_scope, fill_draftAll_scope children, tagEnd]
  | text value span => simp [Node.draft, Node.scope, Node.render]
  | expression source span => simp [Node.draft, Node.scope, Node.render]
  | comment value span => rfl

/-- With the attribute in its gaps a list of nodes is written as it is when scoped. -/
lemma fill_draftAll_scope (nodes : List Node) :
    (Node.draftAll name nodes).fill (' ' :: name) =
      Node.renderAll (Node.scopeAll name nodes) := by
  cases nodes with
  | nil => rfl
  | cons node nodes =>
    rw [Node.draftAll, Node.scopeAll, Node.renderAll, Draft.fill_append, fill_draft_scope node,
      fill_draftAll_scope nodes]

end

/-! ### Where the gaps are -/

/-- What ends an opening tag. -/
def tagEnds : List Text := [tagEnd false, tagEnd true]

/-- The end of a tag shows on its line. -/
lemma visible_tagEnds : Draft.Visible tagEnds := by
  intro mark hmark
  have hcases : mark = tagEnd false ∨ mark = tagEnd true := by simpa [tagEnds] using hmark
  rcases hcases with rfl | rfl
  · exact ⟨rfl, by decide⟩
  · exact ⟨rfl, by decide⟩

/-- The gap of a tag is before its end. -/
lemma Tag.gapsBefore_draft (tag : Tag) (closed : Bool) :
    Draft.GapsBefore tagEnds (tag.draft name ++ Draft.ofText (tagEnd closed)) := by
  have hend : tagEnd closed ∈ tagEnds := by cases closed <;> simp [tagEnds]
  rw [Tag.draft, List.append_assoc]
  refine (Draft.gapsBefore_ofText _).append ?_
  split_ifs
  · exact Draft.gapsBefore_ofText _
  · exact ⟨⟨_, hend, List.prefix_rfl⟩, Draft.gapsBefore_ofText _⟩

mutual

/-- The gaps of a node are before the ends of tags. -/
lemma gapsBefore_draft (node : Node) : Draft.GapsBefore tagEnds (node.draft name) := by
  cases node with
  | element tag children span =>
    rw [Node.draft]
    split_ifs
    · exact tag.gapsBefore_draft true
    · exact ((tag.gapsBefore_draft false).append (gapsBefore_draftAll children)).append
        (Draft.gapsBefore_ofText _)
  | text value span => exact Draft.gapsBefore_ofText _
  | expression source span => exact Draft.gapsBefore_ofText _
  | comment value span => trivial

/-- The gaps of a list of nodes are before the ends of tags. -/
lemma gapsBefore_draftAll (nodes : List Node) :
    Draft.GapsBefore tagEnds (Node.draftAll name nodes) := by
  cases nodes with
  | nil => trivial
  | cons node nodes => exact (gapsBefore_draft node).append (gapsBefore_draftAll nodes)

end

/-- The tags among some that an attribute `name` is missing in. -/
def lacking (name : Text) (tags : List Tag) : List Tag :=
  tags.filter fun tag => !tag.hasAttribute name

/-- Tags that lack an attribute are found one after another. -/
lemma lacking_append (tags tags' : List Tag) :
    lacking name (tags ++ tags') = lacking name tags ++ lacking name tags' :=
  List.filter_append ..

/-- A tag has a gap if it lacks the attribute. -/
lemma Tag.gaps_draft (tag : Tag) : (tag.draft name).gaps = lacking name [tag] := by
  cases h : tag.hasAttribute name with
  | true => simp [Tag.draft, lacking, h]
  | false => simp [Tag.draft, lacking, h]

/-- The gaps of nodes are those of each of them. -/
lemma gaps_draftAll {nodes : List Node}
    (h : ∀ node ∈ nodes, (node.draft name).gaps = lacking name node.tags) :
    (Node.draftAll name nodes).gaps = lacking name (Node.tagsAll nodes) := by
  induction nodes with
  | nil => rfl
  | cons node nodes ih =>
    rw [List.forall_mem_cons] at h
    rw [Node.draftAll, Node.tagsAll, Draft.gaps_append, h.1, ih h.2, lacking_append]

/-- **There is one gap for every element without the attribute**, in their order, in a node that
stands in a source: an element that closes itself has nothing below it. -/
lemma gaps_draft {source : Text} {node : Node} (h : node.Stands source) :
    (node.draft name).gaps = lacking name node.tags := by
  induction h with
  | text => simp [Node.draft, Node.tags, lacking]
  | expression => simp [Node.draft, Node.tags, lacking]
  | comment => rfl
  | declaration => rfl
  | closed htag hclosed =>
    simp [Node.draft, Node.tags, Node.tagsAll, hclosed, Tag.gaps_draft]
  | @element tag children _ _ _ _ htag hopen _ _ _ _ _ ih =>
    have hcons : lacking name (tag :: Node.tagsAll children) =
        lacking name [tag] ++ lacking name (Node.tagsAll children) := lacking_append [tag] _
    simp [Node.draft, Node.tags, hopen, Tag.gaps_draft, gaps_draftAll ih, hcons]

end Markup

open Markup

/-! ### The returned template -/

/-- The returned template of some nodes, with gaps for the attribute `name`. -/
def templateDraft (name : Text) (nodes : List Node) : Draft Tag :=
  match TemplateShape.ofNodes nodes with
  | .empty => Draft.ofText "    <></>\n".toList
  | .element => (Node.draftAll name nodes).indent 4 ++ Draft.ofText ['\n']
  | .fragment =>
    let body := (Node.draftAll name nodes).indent 6
    Draft.ofText "    <>\n".toList ++ (if body.isEmpty then [] else body ++ Draft.ofText ['\n']) ++
      Draft.ofText "    </>\n".toList

/-- The module that consists of the lines `before`, and returns the template of some nodes, with
gaps for the attribute `name`. -/
def moduleDraft (before name : Text) (nodes : List Node) : Draft Tag :=
  Draft.ofText (before ++ "  return (\n".toList) ++ templateDraft name nodes ++
    Draft.ofText "  );\n\x7d\n".toList

variable {name ins : Text} {nodes : List Node}

/-- **Laying out the template keeps gaps as they are.** What is returned is the draft of the
template, filled as its nodes are. -/
lemma Buckets.templateText_eq_fill {b : Buckets} (hshape : b.shape = .ofNodes nodes)
    (htext : b.template.flatMap Piece.text = (Node.draftAll name nodes).fill ins)
    (hins : '\n' ∉ ins) : b.templateText = (templateDraft name nodes).fill ins := by
  have hgaps : Draft.GapsBefore tagEnds (Node.draftAll name nodes) := gapsBefore_draftAll nodes
  have hindent := fun n => Draft.fill_indent n hins hgaps visible_tagEnds
  have hempty : ∀ n, (((Node.draftAll name nodes).indent n).fill ins).isEmpty =
      ((Node.draftAll name nodes).indent n).isEmpty := by
    intro n
    refine (hgaps.indent n visible_tagEnds).isEmpty_fill fun mark hmark hnil => ?_
    have hblank := (visible_tagEnds mark hmark).1
    rw [hnil] at hblank
    cases hblank
  rw [Buckets.templateText, hshape, htext, templateDraft]
  cases TemplateShape.ofNodes nodes with
  | empty => simp
  | element => simp [hindent]
  | fragment =>
    simp only [← hindent, hempty]
    split_ifs <;> simp

/-- The gaps of the returned template are before the ends of tags. -/
lemma gapsBefore_templateDraft : Draft.GapsBefore tagEnds (templateDraft name nodes) := by
  have hindent : ∀ n, Draft.GapsBefore tagEnds ((Node.draftAll name nodes).indent n) := fun n =>
    (gapsBefore_draftAll nodes).indent n visible_tagEnds
  unfold templateDraft
  split
  · exact Draft.gapsBefore_ofText _
  · exact (hindent 4).append (Draft.gapsBefore_ofText _)
  · refine ((Draft.gapsBefore_ofText _).append ?_).append (Draft.gapsBefore_ofText _)
    split_ifs
    · trivial
    · exact (hindent 6).append (Draft.gapsBefore_ofText _)

/-- There are no tags in nodes that do not show. -/
lemma tagsAll_eq_nil (h : nodes.filter Node.isSignificant = []) : Node.tagsAll nodes = [] := by
  induction nodes with
  | nil => rfl
  | cons node nodes ih =>
    cases node with
    | element => simp [Node.isSignificant] at h
    | expression => simp [Node.isSignificant] at h
    | text value span =>
      refine ih (List.filter_eq_nil_iff.2 fun node hnode => ?_)
      exact List.filter_eq_nil_iff.1 h node (List.mem_cons_of_mem _ hnode)
    | comment value span =>
      refine ih (List.filter_eq_nil_iff.2 fun node hnode => ?_)
      exact List.filter_eq_nil_iff.1 h node (List.mem_cons_of_mem _ hnode)

/-- The gaps of the returned template are those of its nodes. -/
lemma gaps_templateDraft {source : Text} (h : ∀ node ∈ nodes, node.Stands source) :
    (templateDraft name nodes).gaps = lacking name (Node.tagsAll nodes) := by
  have hnodes : (Node.draftAll name nodes).gaps = lacking name (Node.tagsAll nodes) :=
    gaps_draftAll fun node hnode => gaps_draft (h node hnode)
  have hindent : ∀ n, ((Node.draftAll name nodes).indent n).gaps = _ := fun n =>
    (Draft.gaps_indent n (gapsBefore_draftAll nodes) visible_tagEnds).trans hnodes
  unfold templateDraft
  split
  · rename_i hshape
    unfold TemplateShape.ofNodes at hshape
    split at hshape
    · rename_i hnone
      simp [tagsAll_eq_nil hnone, lacking]
    · split_ifs at hshape
    · cases hshape
  · simp [hindent]
  · dsimp only
    split_ifs with hempty
    · have hnone := hindent 6
      rw [List.isEmpty_iff.1 hempty] at hnone
      rw [← hnone]
      simp
    · simp [hindent]

/-! ### Compiling -/

/-- The nodes of the template stand in the source. -/
lemma stands_template {source : Text} {document : Document} (h : parse source = .ok document) :
    ∀ node ∈ (Parts.ofNodes document.nodes).template, node.Stands source := by
  intro node hnode
  have hmem := (List.dropWhile_sublist _).mem hnode
  exact (siblings_of_parse h).stand node (List.mem_of_mem_filter hmem)

/-- The text of the pieces of a template is that of its nodes. -/
lemma text_templatePieces (scopeId : Option Text) (nodes : List Node) :
    (templatePieces scopeId nodes).flatMap Piece.text = Node.renderAll
      (match scopeId with
        | some id => Node.scopeAll (scopeAttribute id) nodes
        | none => nodes) := by
  cases scopeId with
  | none => simp [templatePieces, Node.renderAll_eq_flatMap, List.flatMap_map, Piece.made]
  | some id =>
    simp [templatePieces, scopeTemplate, Node.renderAll_eq_flatMap, List.flatMap_map, Piece.made]

/-- What stands in a module before what its function returns. -/
def Buckets.openingText (b : Buckets) : Text :=
  paragraph b.imports ++ paragraph b.moduleBody ++
    "export default function(props) \x7b\n".toList ++ b.instanceText

/-- The module of some buckets is a draft that is filled as the template is. -/
lemma Buckets.moduleText_eq_fill {b : Buckets} (hshape : b.shape = .ofNodes nodes)
    (htext : b.template.flatMap Piece.text = (Node.draftAll name nodes).fill ins)
    (hins : '\n' ∉ ins) : b.moduleText = (moduleDraft b.openingText name nodes).fill ins := by
  rw [Buckets.moduleText, Buckets.templateText_eq_fill hshape htext hins, moduleDraft,
    Buckets.openingText]
  simp

/-- What the buckets of a document hold, by whether it is scoped: what comes before the returned
template depends on its statements only. -/
lemma exists_openingText {readers : Readers} {source : Text} {scopeId : Option Text}
    {document : Document} {b : Buckets} (h : fillBuckets source scopeId document readers = .ok b) :
    ∃ statements,
      topStatements source (Parts.ofNodes document.nodes).scripts readers = .ok statements ∧
      b.openingText = (statements.foldl (Buckets.addTop source) {}).openingText ∧
      b.shape = .ofNodes (Parts.ofNodes document.nodes).template ∧
      b.template = templatePieces scopeId (Parts.ofNodes document.nodes).template := by
  obtain ⟨statements, styles, hread, rfl⟩ := fillBuckets_eq_ok h
  exact ⟨statements, hread, rfl, rfl, rfl⟩

/-- **Scoping inserts attributes, and does nothing else.** Compile a source without scoping, and
with scoping by an id without line feeds, with the same readers. If both succeed, the two modules
are one draft, line by line: without anything in its gaps, and with the scope attribute in every
one of them. Up to where the function returns there are no gaps. After that there is one gap for
every element of the template, at any depth, that does not have the attribute, in their order; each
gap is right before the end of an opening tag.

**Proof sketch.** The statements and the shape of the template do not depend on scoping. A node and
the same node scoped are written as one draft, and laying out the template commutes with filling
it, as no line with a gap is blank. -/
theorem compile_scope_inserts {readers : Readers} {options scoping : CompileOptions}
    {fresh fresh' source id : Text} {output output' : CompileOutput}
    (hoff : options.scope = false) (hon : scoping.scope = true)
    (hid : scoping.id = some id) (hline : '\n' ∉ id)
    (houtput : compile options fresh source readers = .ok output)
    (houtput' : compile scoping fresh' source readers = .ok output') :
    ∃ document before, parse source = .ok document ∧
      let template := (Parts.ofNodes document.nodes).template
      let code := moduleDraft before (scopeAttribute id) template
      output.code = code.fill [] ∧ output'.code = code.fill (' ' :: scopeAttribute id) ∧
      output.code.lines = (Draft.lines code).map (Draft.fill []) ∧
      output'.code.lines = (Draft.lines code).map (Draft.fill (' ' :: scopeAttribute id)) ∧
      Draft.gaps code = lacking (scopeAttribute id) (Node.tagsAll template) ∧
      Draft.GapsBefore tagEnds code := by
  obtain ⟨document, b, hparse, hfill, rfl⟩ := compile_eq_ok houtput
  obtain ⟨document', b', hparse', hfill', rfl⟩ := compile_eq_ok houtput'
  obtain rfl : document = document' := by simpa [hparse] using hparse'
  have hoff' : options.scopeId? fresh source = none := by simp [CompileOptions.scopeId?, hoff]
  have hon' : scoping.scopeId? fresh' source = some id := by
    simp [CompileOptions.scopeId?, hon, hid, resolveId]
  rw [hoff'] at hfill
  rw [hon'] at hfill'
  obtain ⟨statements, hread, hopening, hshape, htemplate⟩ := exists_openingText hfill
  obtain ⟨statements', hread', hopening', hshape', htemplate'⟩ := exists_openingText hfill'
  rw [hread, Except.ok.injEq] at hread'
  rw [← hread', ← hopening] at hopening'
  have hname : '\n' ∉ ' ' :: scopeAttribute id := by
    have hfixed : '\n' ∉ " data-scope-".toList := by decide
    exact fun hmem => (List.mem_append.1 hmem).elim hfixed hline
  have hplain : b.moduleText = (moduleDraft b.openingText (scopeAttribute id) _).fill [] :=
    Buckets.moduleText_eq_fill hshape (by rw [htemplate, text_templatePieces, fill_draftAll])
      (by simp)
  have hscoped : b'.moduleText =
      (moduleDraft b'.openingText (scopeAttribute id) _).fill (' ' :: scopeAttribute id) :=
    Buckets.moduleText_eq_fill hshape'
      (by rw [htemplate', text_templatePieces, fill_draftAll_scope]) hname
  rw [hopening'] at hscoped
  refine ⟨document, b.openingText, hparse, hplain, hscoped, ?_, ?_, ?_, ?_⟩
  · rw [← Draft.lines_fill (by simp)]
    exact congrArg Text.lines hplain
  · rw [← Draft.lines_fill hname]
    exact congrArg Text.lines hscoped
  · simp [moduleDraft, gaps_templateDraft (stands_template hparse)]
  · exact ((Draft.gapsBefore_ofText _).append gapsBefore_templateDraft).append
      (Draft.gapsBefore_ofText _)

/-- A list gets the attribute in two of its three tags, before a bracket and before the mark of a
void element; the item that has it already is left alone. -/
theorem compile_scope_inserts_list : ∃ code : Draft Tag,
    compile {} [] "<ul>\n<li data-scope-q>a</li>\n<br></ul>".toList = .ok ⟨code.fill [], []⟩ ∧
    compile { scope := true, id := some "q".toList } []
      "<ul>\n<li data-scope-q>a</li>\n<br></ul>".toList =
        .ok ⟨code.fill " data-scope-q".toList, []⟩ ∧
    Draft.gaps code = [⟨"ul".toList, [], false⟩, ⟨"br".toList, [], true⟩] ∧
    Draft.GapsBefore tagEnds code := by
  have hplain : compile {} [] "<ul>\n<li data-scope-q>a</li>\n<br></ul>".toList = .ok
      ⟨("export default function(props) \x7b\n  return (\n    <ul>\n" ++
        "    <li data-scope-q>a</li>\n    <br /></ul>\n  );\n\x7d\n").toList, []⟩ := by
    decide +kernel
  have hscoped : compile { scope := true, id := some "q".toList } []
      "<ul>\n<li data-scope-q>a</li>\n<br></ul>".toList = .ok
      ⟨("export default function(props) \x7b\n  return (\n    <ul data-scope-q>\n" ++
        "    <li data-scope-q>a</li>\n    <br data-scope-q /></ul>\n  );\n\x7d\n").toList, []⟩ := by
    decide +kernel
  have hparse : parse "<ul>\n<li data-scope-q>a</li>\n<br></ul>".toList = .ok
      ⟨[.element ⟨"ul".toList, [], false⟩ [.text "\n".toList ⟨4, 5⟩,
        .element ⟨"li".toList, [⟨"data-scope-q".toList, .empty, ⟨9, 21⟩⟩], false⟩
          [.text "a".toList ⟨22, 23⟩] ⟨5, 28⟩,
        .text "\n".toList ⟨28, 29⟩, .element ⟨"br".toList, [], true⟩ [] ⟨29, 33⟩] ⟨0, 38⟩],
        ⟨0, 38⟩⟩ := by
    decide +kernel
  obtain ⟨document, before, hdocument, hcode, hcode', -, -, hgaps, hbefore⟩ :=
    compile_scope_inserts rfl rfl rfl (by decide : '\n' ∉ "q".toList) hplain hscoped
  rw [hparse, Except.ok.injEq] at hdocument
  subst hdocument
  have hname : ' ' :: scopeAttribute "q".toList = " data-scope-q".toList := by decide
  dsimp only at hcode hcode'
  rw [hname] at hcode'
  rw [hplain, hscoped, hcode, hcode']
  exact ⟨_, rfl, rfl, hgaps.trans (by decide +kernel), hbefore⟩

end OneFile
