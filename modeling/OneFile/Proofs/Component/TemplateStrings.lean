import OneFile.Proofs.Component.Insertion
import OneFile.Proofs.Markup.BraceStack
import OneFile.Proofs.Markup.Inversion
import OneFile.Proofs.Text.Hanging

/-!
# Template strings in the module

The returned template is laid out line by line, with no knowledge of where an expression or a
template string in it begins and ends. A template string within a line is left alone. Of one that
goes over several lines, the later lines are indented with the rest of the template, and dropped
where they are blank.

## Main definitions

* `OneFile.Markup.Brace.templateStrings` — the template strings that a scan of braces comes upon.
* `OneFile.Markup.Node.Carries` — an expression that a node has as itself or in its opening tag.
* `OneFile.TemplateShape.margin` — how far the lines of a returned template are indented.

## Main results

* `OneFile.Markup.Brace.exists_eq_of_mem_templateStrings` — a template string stands between two
  marks.
* `OneFile.Markup.Node.Within.infix_renderAll` — a node at any depth is written into the template.
* `OneFile.compile_keeps_templateStrings` — what becomes of the template strings of a component.

## Design

A template string is delimited by the scan itself: it starts where the scan puts it on its stack of
open things, and ends where that stack is again as short as before. That it ends with a mark is
proved from the steps of the scan.
-/

namespace OneFile

namespace Markup

namespace Brace

/-! ### Template strings in a scan -/

/-- What a scan passes over until no more than `depth` things are open. -/
def untilDepth (depth : Nat) (state : State) : Text → Option Text
  | [] => none
  | c :: s =>
    match step state c with
    | .next state' =>
      if state'.stack.length ≤ depth then some [c]
      else (untilDepth depth state' s).map (c :: ·)
    | .closed | .stuck => none

/-- **The template strings that a scan comes upon**, at any depth, each from the mark that opens it
to the one that closes it. -/
def templateStrings (state : State) : Text → List Text
  | [] => []
  | c :: s =>
    match step state c with
    | .next state' =>
      (if state' = ⟨.literal, .template :: state.stack⟩ then
        ((untilDepth state.stack.length state' s).map (c :: ·)).toList else []) ++
        templateStrings state' s
    | .closed | .stuck => []

/-- Only a mark puts a template string on a stack. -/
lemma Changes.eq_mark {c : Char} {stack : List Opening} (h : Changes c stack (.template :: stack)) :
    c = '`' := by
  generalize hstack : Opening.template :: stack = stack' at h
  have hlength := congrArg List.length hstack
  cases h with
  | same => simp at hlength
  | openBrace => simp at hstack
  | openTemplate hc => exact hc
  | closeBrace _ hbelow =>
    rw [hbelow, List.length_cons, List.length_cons] at hlength
    omega
  | closeTemplate hc => exact hc

/-- Whatever the rest of a template string does to a stack, it leaves the mark on top of what was
there before: a stack that has the template string on it keeps it, or the character is its mark. -/
lemma Changes.suffix_or_closes {c : Char} {below stack stack' : List Opening}
    (h : Changes c stack stack') (hon : .template :: below <:+ stack) :
    .template :: below <:+ stack' ∨ c = '`' ∧ stack' = below := by
  cases h with
  | same => exact .inl hon
  | openBrace => exact .inl (hon.trans (List.suffix_cons ..))
  | openTemplate => exact .inl (hon.trans (List.suffix_cons ..))
  | closeBrace _ hstack =>
    subst hstack
    rcases List.suffix_cons_iff.1 hon with heq | hon
    · simp at heq
    · exact .inl hon
  | closeTemplate hc hstack =>
    subst hstack
    rcases List.suffix_cons_iff.1 hon with heq | hon
    · exact .inr ⟨hc, (List.cons.inj heq).2.symm⟩
    · exact .inl hon

/-- What a scan passes over until a template string is no longer on its stack ends with a mark. -/
lemma exists_eq_of_untilDepth {state : State} {below : List Opening} {s literal : Text}
    (hfits : state.Fits) (hon : .template :: below <:+ state.stack)
    (h : untilDepth below.length state s = some literal) :
    ∃ middle after, literal = middle ++ ['`'] ∧ s = literal ++ after := by
  induction s generalizing state literal with
  | nil => cases h
  | cons c s ih =>
    unfold untilDepth at h
    split at h
    · rename_i state' hstep
      obtain ⟨hfits', hchanges⟩ := hfits.step hstep
      split_ifs at h with hdepth
      · obtain rfl := Option.some.inj h
        rcases hchanges.suffix_or_closes hon with hon' | ⟨rfl, -⟩
        · have hlength := hon'.length_le
          rw [List.length_cons] at hlength
          omega
        · exact ⟨[], s, rfl, rfl⟩
      · obtain ⟨rest, hrest, rfl⟩ := Option.map_eq_some_iff.1 h
        rcases hchanges.suffix_or_closes hon with hon' | ⟨-, hbelow⟩
        · obtain ⟨middle, after, rfl, rfl⟩ := ih hfits' hon' hrest
          exact ⟨c :: middle, after, rfl, rfl⟩
        · rw [hbelow] at hdepth
          exact absurd le_rfl hdepth
    · cases h
    · cases h

/-- **A template string stands between two marks**, somewhere in the text that is scanned.

**Proof sketch.** Where the scan puts a template string on its stack there is a mark. After that the
template string is on the stack until it is what is innermost and closed, by a mark again. -/
theorem exists_eq_of_mem_templateStrings {state : State} {s literal : Text} (hfits : state.Fits)
    (h : literal ∈ templateStrings state s) :
    ∃ before middle after, literal = '`' :: middle ++ ['`'] ∧ s = before ++ literal ++ after := by
  induction s generalizing state with
  | nil => cases h
  | cons c s ih =>
    unfold templateStrings at h
    split at h
    · rename_i state' hstep
      obtain ⟨hfits', hchanges⟩ := hfits.step hstep
      rcases List.mem_append.1 h with hhere | hlater
      · split_ifs at hhere with hopens
        · obtain ⟨rest, hrest, rfl⟩ := Option.map_eq_some_iff.1 (Option.mem_toList.1 hhere)
          subst hopens
          obtain ⟨middle, after, rfl, rfl⟩ :=
            exists_eq_of_untilDepth hfits' (List.suffix_refl _) hrest
          obtain rfl := hchanges.eq_mark
          exact ⟨[], middle, after, rfl, rfl⟩
        · cases hhere
      · obtain ⟨before, middle, after, hliteral, rfl⟩ := ih hfits' hlater
        exact ⟨c :: before, middle, after, hliteral, rfl⟩
    · cases h
    · cases h

end Brace

/-! ### Expressions in a template -/

namespace Node

/-- **An expression that a node has**, not counting what is below it: the expression that it is, or
the braced value of an attribute in its opening tag. -/
def Carries (e : Text) : Node → Prop
  | .element tag _ _ => ∃ a ∈ tag.attributes, a.value = .expression e
  | .expression source _ => source = e
  | .text .. | .comment .. => False

/-- An expression is written in its braces with the node that has it. -/
lemma Carries.infix_render {e : Text} {node : Node} (h : node.Carries e) :
    braced e <:+: node.render := by
  cases node with
  | expression source span =>
    obtain rfl : source = e := h
    rw [render]
  | element tag children span =>
    obtain ⟨a, ha, hvalue⟩ := h
    have hattribute : braced e <:+ ' ' :: a.render :=
      ⟨' ' :: a.name ++ ['='], by simp [Attribute.render, AttributeValue.render, hvalue]⟩
    have hattributes : ' ' :: a.render <:+: tag.attributes.flatMap fun a => ' ' :: a.render :=
      List.infix_of_mem_flatten (List.mem_map.2 ⟨a, ha, rfl⟩)
    have htag : ' ' :: a.render <:+: tag.render :=
      hattributes.trans (List.suffix_append ('<' :: tag.name) _).isInfix
    have hrender : tag.render <+: render (.element tag children span) := by
      rw [render]
      split_ifs
      · exact List.prefix_append ..
      · simp only [List.append_assoc]
        exact List.prefix_append ..
    exact (hattribute.isInfix.trans htag).trans hrender.isInfix
  | text => exact h.elim
  | comment => exact h.elim

/-- A node that has an expression shows in the output. -/
lemma Carries.isSignificant {e : Text} {node : Node} (h : node.Carries e) :
    node.isSignificant = true := by
  cases node with
  | expression => rfl
  | element => rfl
  | text => exact h.elim
  | comment => exact h.elim

/-- **A node at any depth is written** with the nodes that it is within, if they stand in a source:
an element that closes itself has nothing below it. -/
lemma Within.infix_renderAll {source : Text} {node : Node} {nodes : List Node}
    (h : node.Within nodes) (hstand : ∀ n ∈ nodes, n.Stands source) :
    node.render <:+: renderAll nodes := by
  induction h with
  | among h =>
    rw [renderAll_eq_flatMap]
    exact List.infix_of_mem_flatten (List.mem_map_of_mem h)
  | @inside nodes children tag span hparent hwithin ih =>
    have hbelow : renderAll children <:+: render (.element tag children span) := by
      cases hstand _ hparent with
      | closed => exact absurd hwithin not_within_nil
      | element _ hopen =>
        refine ⟨tag.render ++ ['>'], "</".toList ++ tag.name ++ ">".toList, ?_⟩
        simp [render, hopen]
    have hchildren : ∀ child ∈ children, child.Stands source := fun child hchild =>
      Within.stands (.inside hparent (.among hchild)) hstand
    rw [renderAll_eq_flatMap nodes]
    exact ((ih hchildren).trans hbelow).trans
      (List.infix_of_mem_flatten (List.mem_map_of_mem hparent))

/-- Nodes with a node that shows, at any depth, are not nothing. -/
lemma Within.filter_isSignificant_ne_nil {node : Node} {nodes : List Node} (h : node.Within nodes)
    (hnode : node.isSignificant = true) : nodes.filter isSignificant ≠ [] := by
  have hmem : ∃ n ∈ nodes, n.isSignificant = true := by
    cases h with
    | among h => exact ⟨node, h, hnode⟩
    | inside hparent => exact ⟨_, hparent, rfl⟩
  obtain ⟨n, hn, hsignificant⟩ := hmem
  exact List.ne_nil_of_mem (List.mem_filter.2 ⟨hn, hsignificant⟩)

end Node

end Markup

open Markup

/-! ### Compiling -/

/-- How far the lines of a returned template are indented. -/
def TemplateShape.margin : TemplateShape → Nat
  | .element => 4
  | .empty | .fragment => 6

/-- A template that shows something is in the module, indented by its margin. -/
lemma Buckets.indent_infix_moduleText {b : Buckets} (hshape : b.shape ≠ .empty) :
    Text.indent b.shape.margin (b.template.flatMap Piece.text) <:+: b.moduleText := by
  have htemplate : Text.indent b.shape.margin (b.template.flatMap Piece.text) <:+:
      b.templateText := by
    unfold templateText
    cases h : b.shape with
    | empty => exact absurd h hshape
    | element => exact (List.prefix_append ..).isInfix
    | fragment =>
      dsimp only [TemplateShape.margin]
      split_ifs with hempty
      · rw [List.isEmpty_iff.1 hempty]
        exact List.nil_infix
      · refine ⟨"    <>\n".toList, '\n' :: "    </>\n".toList, ?_⟩
        simp
  refine htemplate.trans ?_
  unfold moduleText
  simp only [List.append_assoc]
  exact ⟨paragraph b.imports ++ (paragraph b.moduleBody ++
    ("export default function(props) \x7b\n".toList ++ (b.instanceText ++ "  return (\n".toList))),
    "  );\n\x7d\n".toList, by simp only [List.append_assoc]⟩

/-- **What becomes of the template strings of a component** that is compiled without scoping. Take
any expression of the template, at any depth: one in braces between other nodes, or one that is the
braced value of an attribute. Every template string that the scan of its braces comes upon occurs
in the module with a hanging indent, of four spaces where a lone element is returned and of six
spaces elsewhere: its first line as it is, and each later line that is not blank after so many
spaces. So a template string within one line occurs in the module as it is.

**Proof sketch.** The expression is written in its braces into the markup of the template, and the
template string in it starts and ends with a mark, which is not blank. The module has that markup
indented, and indenting leaves a hanging indent of such a stretch. -/
theorem compile_keeps_templateStrings {readers : Readers} {options : CompileOptions}
    {fresh source : Text} {output : CompileOutput} (hscope : options.scope = false)
    (h : compile options fresh source readers = .ok output) :
    ∃ document, parse source = .ok document ∧
      let template := (Parts.ofNodes document.nodes).template
      ∀ node : Node, node.Within template → ∀ e, node.Carries e →
        ∀ literal ∈ Brace.templateStrings .initial (braced e),
          literal.hang (TemplateShape.ofNodes template).margin <:+: output.code ∧
            ('\n' ∉ literal → literal <:+: output.code) := by
  obtain ⟨document, b, hparse, hfill, rfl⟩ := compile_eq_ok h
  have hoff : options.scopeId? fresh source = none := by simp [CompileOptions.scopeId?, hscope]
  rw [hoff] at hfill
  obtain ⟨-, -, -, hshape, htemplate⟩ := exists_openingText hfill
  refine ⟨document, hparse, fun node hwithin e hcarries literal hliteral => ?_⟩
  have hrendered : braced e <:+: Node.renderAll (Parts.ofNodes document.nodes).template :=
    hcarries.infix_render.trans (hwithin.infix_renderAll (stands_template hparse))
  obtain ⟨before, middle, after, rfl, hbraced⟩ :=
    Brace.exists_eq_of_mem_templateStrings Brace.fits_initial hliteral
  obtain ⟨outer, outer', hmarkup⟩ := hrendered
  have hshown : b.shape ≠ .empty := by
    have hne := hwithin.filter_isSignificant_ne_nil hcarries.isSignificant
    rw [hshape, TemplateShape.ofNodes]
    split
    · contradiction
    · split_ifs <;> simp
    · simp
  have hmodule := Buckets.indent_infix_moduleText hshown
  rw [htemplate, text_templatePieces, hshape] at hmodule
  have hhang : Text.hang (TemplateShape.ofNodes (Parts.ofNodes document.nodes).template).margin
      ('`' :: middle ++ ['`']) <:+: b.moduleText := by
    refine List.IsInfix.trans ?_ hmodule
    have hstretch := Text.hang_infix_indent (c := '`') (d := '`')
      (TemplateShape.ofNodes (Parts.ofNodes document.nodes).template).margin (outer ++ before)
      (after ++ outer') middle rfl rfl
    rwa [show outer ++ before ++ ('`' :: middle ++ ['`']) ++ (after ++ outer') =
      Node.renderAll (Parts.ofNodes document.nodes).template by
        rw [← hmarkup, hbraced]; simp] at hstretch
  exact ⟨hhang, fun hline => by rwa [Text.hang_eq_self _ hline] at hhang⟩

/-! ### A template string over two lines -/

/-- A component with two template strings, the second one with a line feed in it. -/
def note : Text := "<p t=\x7b`a`\x7d>\x7b`b\nc`\x7d</p>".toList

/-- The second expression of the component. -/
def noteBody : Node := .expression "`b\nc`".toList ⟨11, 18⟩

/-- The element of the component. -/
def noteElement : Node :=
  .element ⟨"p".toList, [⟨"t".toList, .expression "`a`".toList, ⟨3, 10⟩⟩], false⟩ [noteBody] ⟨0, 22⟩

/-- The module of the component. -/
def noteModule : Text :=
  ("export default function(props) \x7b\n  return (\n" ++
    "    <p t=\x7b`a`\x7d>\x7b`b\n    c`\x7d</p>\n  );\n\x7d\n").toList

/-- The first template string of the component stays as it is in the module, and the second one is
indented. -/
theorem compile_keeps_note_templateStrings :
    "`a`".toList <:+: noteModule ∧ Text.hang 4 "`b\nc`".toList <:+: noteModule := by
  have hcompile : compile {} [] note = .ok ⟨noteModule, []⟩ := by decide +kernel
  have hparse : parse note = .ok ⟨[noteElement], ⟨0, 22⟩⟩ := by decide +kernel
  obtain ⟨document, hdocument, hkeeps⟩ := compile_keeps_templateStrings rfl hcompile
  rw [hparse, Except.ok.injEq] at hdocument
  subst hdocument
  have helement : noteElement.Within [noteElement] := .among (by simp)
  have hbody : noteBody.Within [noteElement] :=
    .inside (List.mem_singleton.2 rfl) (.among (by simp))
  have hvalue : noteElement.Carries "`a`".toList := ⟨_, List.mem_singleton.2 rfl, rfl⟩
  have hfirst := hkeeps noteElement helement "`a`".toList hvalue "`a`".toList (by decide)
  have hsecond := hkeeps noteBody hbody "`b\nc`".toList rfl "`b\nc`".toList (by decide)
  exact ⟨hfirst.2 (by decide), hsecond.1⟩

/-- The second template string of the component does not occur in the module as it is. -/
theorem not_compile_keeps_line_feeds :
    compile {} [] note = .ok ⟨noteModule, []⟩ ∧ parse note = .ok ⟨[noteElement], ⟨0, 22⟩⟩ ∧
      (Parts.ofNodes [noteElement]).template = [noteElement] ∧ noteBody.Within [noteElement] ∧
      noteBody.Carries "`b\nc`".toList ∧
      "`b\nc`".toList ∈ Brace.templateStrings .initial (braced "`b\nc`".toList) ∧
      ¬ "`b\nc`".toList <:+: noteModule := by
  refine ⟨by decide +kernel, by decide +kernel, rfl, ?_, rfl, by decide, by decide +kernel⟩
  exact .inside (List.mem_singleton.2 rfl) (.among (by simp))

end OneFile
