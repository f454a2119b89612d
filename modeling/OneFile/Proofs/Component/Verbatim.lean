import Mathlib.Data.List.Forall2
import OneFile.Proofs.Component.Hoisting
import OneFile.Proofs.Text.Trim

/-!
# Statements in the module

Script statements are put into the module as they stand in the source. Those of the component
function are laid out anew at the ends of their lines, where blanks may be taken away.

## Main definitions

* `OneFile.Text.LosesLineEnds` — a text that is another one but for blanks at the ends of lines.

## Main results

* `OneFile.compile_eq_componentText` — a module by the texts of the statements in it.
* `OneFile.compile_keeps_statements` — every statement occurs in the module.
-/

namespace OneFile

open Markup

/-! ### Blanks at line ends -/

namespace Text

/-- **A text that is another one but for blanks at the ends of lines**: it has the same lines, each
one with nothing but blanks missing at its end. -/
def LosesLineEnds (s t : Text) : Prop :=
  ∃ ls : List Text, t = unlines ls ∧
    List.Forall₂ (fun l l' => ∃ blanks : Text, blanks.blank = true ∧ l = l' ++ blanks) s.lines ls

/-- No blanks need be missing. -/
lemma LosesLineEnds.refl (s : Text) : s.LosesLineEnds s :=
  ⟨s.lines, (unlines_lines s).symm, List.forall₂_same.2 fun l _ => ⟨[], rfl, by simp⟩⟩

/-- Trimming the lines of a text takes away nothing but blanks at their ends. -/
lemma losesLineEnds_trimLines (s : Text) : s.LosesLineEnds (Buckets.trimLines s) := by
  refine ⟨s.lines.map trimEnd, rfl, ?_⟩
  rw [List.forall₂_map_right_iff]
  exact List.forall₂_same.2 fun l _ => exists_trimEnd_append l

/-- Trimming leaves a text as it is if none of its lines ends in a blank. -/
lemma trimLines_eq_self {s : Text} (h : ∀ l ∈ s.lines, l.trimEnd = l) :
    Buckets.trimLines s = s := by
  rw [Buckets.trimLines, List.map_congr_left h, List.map_id', unlines_lines]

end Text

/-! ### Texts in a module -/

/-- A text on lines of its own is among the lines. -/
lemma infix_linesOf {t : Text} {texts : List Text} (h : t ∈ texts) : t <:+: linesOf texts := by
  obtain ⟨before, after, rfl⟩ := List.append_of_mem h
  have hne : (before ++ t :: after).isEmpty = false := by cases before <;> rfl
  refine ⟨before.flatMap (· ++ ['\n']), '\n' :: after.flatMap (· ++ ['\n']) ++ ['\n'], ?_⟩
  simp [linesOf, hne]

variable {imports moduleBody instanceBody : List Text} {returned t : Text}

/-- The text of an import is in the module. -/
lemma infix_componentText_of_mem_imports (h : t ∈ imports) :
    t <:+: componentText imports moduleBody instanceBody returned := by
  have hprefix : linesOf imports <+: componentText imports moduleBody instanceBody returned := by
    simp only [componentText, List.append_assoc]
    exact List.prefix_append ..
  exact (infix_linesOf h).trans hprefix.isInfix

/-- The text of a module statement is in the module. -/
lemma infix_componentText_of_mem_moduleBody (h : t ∈ moduleBody) :
    t <:+: componentText imports moduleBody instanceBody returned := by
  have hinfix : linesOf moduleBody <:+: componentText imports moduleBody instanceBody returned := by
    simp only [componentText, List.append_assoc]
    exact ((List.prefix_append ..).isInfix).trans (List.suffix_append ..).isInfix
  exact (infix_linesOf h).trans hinfix

/-- The text of an instance statement is in the module, with its lines trimmed. -/
lemma infix_componentText_of_mem_instanceBody (h : t ∈ instanceBody) :
    Buckets.trimLines t <:+: componentText imports moduleBody instanceBody returned := by
  have hinfix : linesOf (instanceBody.map fun t => ' ' :: ' ' :: Buckets.trimLines t) <:+:
      componentText imports moduleBody instanceBody returned := by
    simp only [componentText, List.append_assoc]
    exact (((List.prefix_append ..).isInfix.trans (List.suffix_append ..).isInfix).trans
      (List.suffix_append ..).isInfix).trans (List.suffix_append ..).isInfix
  have hindented : Buckets.trimLines t <:+: ' ' :: ' ' :: Buckets.trimLines t :=
    (List.suffix_append [' ', ' '] _).isInfix
  have hmem : ' ' :: ' ' :: Buckets.trimLines t ∈
      instanceBody.map fun t => ' ' :: ' ' :: Buckets.trimLines t := List.mem_map.2 ⟨t, h, rfl⟩
  exact (hindented.trans (infix_linesOf hmem)).trans hinfix

/-! ### Compiling -/

/-- **A module by the texts of the statements in it**, for a source that compiles. -/
lemma compile_eq_componentText {readers : Readers} {options : CompileOptions} {fresh source : Text}
    {output : CompileOutput} (h : compile options fresh source readers = .ok output) :
    ∃ document statements returned, parse source = .ok document ∧
      topStatements source (Parts.ofNodes document.nodes).scripts readers = .ok statements ∧
      output.code = componentText (textsIn source statements .imports)
        (textsIn source statements .moduleBody) (textsIn source statements .instanceBody)
        returned := by
  obtain ⟨document, b, hparse, hfill, rfl⟩ := compile_eq_ok h
  obtain ⟨statements, styles, hread, hb⟩ := fillBuckets_eq_ok hfill
  have htexts : ∀ place, (b.pieces place).map Piece.text = textsIn source statements place := by
    intro place
    have hpieces : b.pieces place =
        (statements.filter (·.place = place)).map (TopStatement.piece source) := by
      have hfold := Buckets.pieces_foldl_addTop source statements {} place
      rw [hb]
      cases place <;> exact hfold
    rw [hpieces, List.map_map]
    rfl
  refine ⟨document, statements, b.templateText, hparse, hread, ?_⟩
  rw [← htexts, ← htexts, ← htexts]
  exact b.moduleText_eq

/-- **Every statement occurs in the module**, if the source compiles with any readers: imports and
the statements of module scripts as they stand in the source, and those of instance scripts but for
blanks at the ends of their lines.

**Proof sketch.** The module is written from the texts of the statements, each on lines of its own;
only those of instance scripts have their lines trimmed. -/
theorem compile_keeps_statements {readers : Readers} {options : CompileOptions}
    {fresh source : Text} {output : CompileOutput}
    (h : compile options fresh source readers = .ok output) :
    ∃ document statements, parse source = .ok document ∧
      topStatements source (Parts.ofNodes document.nodes).scripts readers = .ok statements ∧
      ∀ s ∈ statements, ∃ kept, kept <:+: output.code ∧
        (s.span.slice source).LosesLineEnds kept ∧
        (s.place ≠ .instanceBody ∨ (∀ l ∈ (s.span.slice source).lines, l.trimEnd = l) →
          kept = s.span.slice source) := by
  obtain ⟨document, statements, returned, hparse, hread, hcode⟩ := compile_eq_componentText h
  refine ⟨document, statements, hparse, hread, fun s hs => ?_⟩
  have hmem : s.span.slice source ∈ textsIn source statements s.place :=
    List.mem_map_of_mem (List.mem_filter.2 ⟨hs, by simp⟩)
  rw [hcode]
  cases hplace : s.place with
  | imports =>
    rw [hplace] at hmem
    exact ⟨_, infix_componentText_of_mem_imports hmem, .refl _, fun _ => rfl⟩
  | moduleBody =>
    rw [hplace] at hmem
    exact ⟨_, infix_componentText_of_mem_moduleBody hmem, .refl _, fun _ => rfl⟩
  | instanceBody =>
    rw [hplace] at hmem
    refine ⟨_, infix_componentText_of_mem_instanceBody hmem, Text.losesLineEnds_trimLines _, ?_⟩
    rintro (hne | hlines)
    · exact absurd rfl hne
    · exact Text.trimLines_eq_self hlines

/-! ### A statement with a blank at a line end -/

/-- A component with an instance script whose statement has a blank at the end of its first line. -/
def spaced : Text := "<script>f( \n)</script>".toList

/-- The script of the component. -/
def spacedScript : Element :=
  ⟨⟨"script".toList, [], false⟩, [.text "f( \n)".toList ⟨8, 13⟩], ⟨0, 22⟩⟩

/-- The document of the component. -/
def spacedDocument : Document :=
  ⟨[.element spacedScript.tag spacedScript.children spacedScript.span], ⟨0, 22⟩⟩

/-- The module of the component. -/
def spacedModule : Text :=
  "export default function(props) \x7b\n  f(\n)\n\n  return (\n    <></>\n  );\n\x7d\n".toList

/-- The statement of the component occurs in its module. -/
theorem compile_keeps_spaced_statement :
    compile {} [] spaced = .ok ⟨spacedModule, []⟩ ∧
    ∃ document statements, parse spaced = .ok document ∧
      topStatements spaced (Parts.ofNodes document.nodes).scripts = .ok statements ∧
      ∀ s ∈ statements, ∃ kept, kept <:+: spacedModule ∧
        (s.span.slice spaced).LosesLineEnds kept ∧
        (s.place ≠ .instanceBody ∨ (∀ l ∈ (s.span.slice spaced).lines, l.trimEnd = l) →
          kept = s.span.slice spaced) := by
  have hcompile : compile {} [] spaced = .ok ⟨spacedModule, []⟩ := by decide +kernel
  exact ⟨hcompile, compile_keeps_statements hcompile⟩

/-- The statement of the component does not occur in its module as it stands in the source. -/
theorem not_compile_keeps_blanks :
    compile {} [] spaced = .ok ⟨spacedModule, []⟩ ∧
      parse spaced = .ok spacedDocument ∧
      topStatements spaced (Parts.ofNodes spacedDocument.nodes).scripts =
        .ok [⟨⟨false, ⟨8, 13⟩⟩, false⟩] ∧
      ¬ (Span.mk 8 13).slice spaced <:+: spacedModule := by
  refine ⟨?_, ?_, ?_, ?_⟩ <;> decide +kernel

end OneFile
