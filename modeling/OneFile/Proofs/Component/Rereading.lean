import OneFile.Proofs.Component.Verbatim
import OneFile.Proofs.Script.OnLines

/-!
# Reading a module again

The statements of module scripts are written into the module one to a line, without whatever stood
between them in the source. Read again as the script of another component they are the same
statements only if each of them is read, where it stands now, as one statement up to its end. What
was taken out between two statements, such as an import, may have kept them apart.

## Main results

* `OneFile.ScriptBlock.statements_onLines_iff` — when a script has the statements that stand on its
  lines.
* `OneFile.compile_rereads_iff` — when the module statements of a component are read again as they
  were written.

## Design

What is asked for is that statements are found again where they were written. Their texts are then
the same, too. The condition for it, `OneFile.Script.ReadOnLines`, is about the rounds in which the
lines are read and not about the texts on their own.
-/

namespace OneFile

open Markup

/-! ### Scripts with statements on lines -/

/-- What this library reads is the same if blank scripts are left out. -/
lemma Readers.own_statements_eq_ok_iff {code : Text} {read : List Script.Statement} :
    Readers.own.statements code = .ok read ↔ Script.statements? code = some read := by
  unfold Readers.statements
  split_ifs with hblank
  · rw [Script.statements?_of_blank hblank, Except.ok.injEq, Option.some.injEq]
  · cases hread : Script.statements? code <;> simp [Readers.own, hread]

/-- The statements of a script are those of its content, moved to where it stands. -/
lemma ScriptBlock.statements_eq_ok_iff {source code : Text} {block : ScriptBlock} {content : Span}
    {again : List Script.Statement} (hcontent : block.element.contentSpan? = some content)
    (hnames : content.Names source code) :
    block.statements source = .ok again ↔ ∃ read, Script.statements? code = some read ∧
      read.map (Script.Statement.shift content.start) = again := by
  unfold ScriptBlock.statements
  rw [hcontent]
  dsimp only
  rw [hnames.slice_eq]
  simp only [← Readers.own_statements_eq_ok_iff]
  cases Readers.own.statements code <;> simp

/-- Moving spans to the right does not identify any. -/
lemma Span.shift_injective (n : Nat) : Function.Injective (Span.shift n) := by
  rintro ⟨a, b⟩ ⟨a', b'⟩ h
  simpa [Span.shift] using h

/-- Statements that are moved stand on lines just if they do so before. -/
lemma map_span_shift_eq_iff (n : Nat) (read : List Script.Statement) (texts : List Text) :
    (read.map (Script.Statement.shift n)).map Script.Statement.span = spansOnLines n texts ↔
      read.map Script.Statement.span = spansOnLines 0 texts := by
  have hmoved : (read.map (Script.Statement.shift n)).map Script.Statement.span =
      (read.map Script.Statement.span).map (Span.shift n) := by
    simp [Function.comp_def, Script.Statement.shift]
  have hlines : spansOnLines n texts = (spansOnLines 0 texts).map (Span.shift n) :=
    spansOnLines_add n 0 texts
  rw [hmoved, hlines]
  exact (List.map_injective_iff.2 (Span.shift_injective n)).eq_iff

/-- Statements that stand where texts on lines do have these texts. -/
lemma map_slice_of_spansOnLines {source : Text} {content : Span} {texts : List Text}
    {statements : List Script.Statement} (hnames : content.Names source (onLines texts))
    (h : statements.map Script.Statement.span = spansOnLines content.start texts) :
    statements.map (·.span.slice source) = texts := by
  obtain ⟨before, after, hsource, hspan⟩ := Span.names_iff.1 hnames
  have hslices := slice_spansOnLines texts hsource
  rw [hspan] at h
  rw [← h, List.map_map] at hslices
  exact hslices

/-- **A script of texts on lines has these texts for its statements**, each one where it was
written, just if they are read in turn. -/
lemma ScriptBlock.statements_onLines_iff {source : Text} {block : ScriptBlock} {content : Span}
    {texts : List Text} (hcontent : block.element.contentSpan? = some content)
    (hnames : content.Names source (onLines texts)) :
    (∃ again, block.statements source = .ok again ∧
      again.map Script.Statement.span = spansOnLines content.start texts ∧
      again.map (·.span.slice source) = texts) ↔ Script.ReadOnLines texts := by
  rw [← Script.statements?_onLines_iff]
  constructor
  · rintro ⟨again, h, hagain, -⟩
    obtain ⟨read, hread, rfl⟩ := (statements_eq_ok_iff hcontent hnames).1 h
    exact ⟨read, hread, (map_span_shift_eq_iff _ read texts).1 hagain⟩
  · rintro ⟨read, hread, hagain⟩
    have hmoved := (map_span_shift_eq_iff content.start read texts).2 hagain
    exact ⟨_, (statements_eq_ok_iff hcontent hnames).2 ⟨read, hread, rfl⟩, hmoved,
      map_slice_of_spansOnLines hnames hmoved⟩

/-! ### Compiling -/

/-- The module statements of a component stand one to a line in its module, after the imports. -/
lemma exists_onLines_append_eq_componentText (imports moduleBody instanceBody : List Text)
    (returned : Text) : ∃ rest, componentText imports moduleBody instanceBody returned =
      linesOf imports ++ onLines moduleBody ++ rest := by
  obtain ⟨ending, hlines⟩ : ∃ ending, linesOf moduleBody = onLines moduleBody ++ ending := by
    cases moduleBody with
    | nil => exact ⟨[], rfl⟩
    | cons t texts => exact ⟨['\n'], rfl⟩
  have hprefix : linesOf imports ++ onLines moduleBody <+:
      componentText imports moduleBody instanceBody returned := by
    simp only [componentText, hlines, List.append_assoc, List.prefix_append_right_inj]
    exact List.prefix_append ..
  obtain ⟨rest, hrest⟩ := hprefix
  exact ⟨rest, hrest.symm⟩

/-- **The module statements of a component are read again as they were written** just if they are
read in turn. Let a source compile. Then its module statements stand one to a line in the module,
after the imports; and a script that consists of these lines, in whatever document it stands, has
the same statements, where they were written, if each of them is read there as one statement up to
its end and the first one is no directive, and not otherwise. That condition is told by reading the
lines round by round, and not from the texts alone.

**Proof sketch.** The module is written from the texts of its statements
(`compile_eq_componentText`), so their lines stand in it one after the other. What a script of such
lines is read as does not depend on the document that it stands in
(`ScriptBlock.statements_onLines_iff`). -/
theorem compile_rereads_iff {options : CompileOptions} {fresh source : Text}
    {output : CompileOutput} (h : compile options fresh source = .ok output) :
    ∃ document statements rest, parse source = .ok document ∧
      topStatements source (Parts.ofNodes document.nodes).scripts = .ok statements ∧
      output.code = linesOf (textsIn source statements .imports) ++
        onLines (textsIn source statements .moduleBody) ++ rest ∧
      ∀ (document' : Text) (block : ScriptBlock) (content : Span),
        block.element.contentSpan? = some content →
        content.Names document' (onLines (textsIn source statements .moduleBody)) →
        ((∃ again, block.statements document' = .ok again ∧
          again.map Script.Statement.span =
            spansOnLines content.start (textsIn source statements .moduleBody) ∧
          again.map (·.span.slice document') = textsIn source statements .moduleBody) ↔
          Script.ReadOnLines (textsIn source statements .moduleBody)) := by
  obtain ⟨document, statements, returned, hparse, hread, hcode⟩ := compile_eq_componentText h
  obtain ⟨rest, hrest⟩ := exists_onLines_append_eq_componentText
    (textsIn source statements .imports) (textsIn source statements .moduleBody)
    (textsIn source statements .instanceBody) returned
  exact ⟨document, statements, rest, hparse, hread, hcode.trans hrest,
    fun _ _ _ hcontent hnames => ScriptBlock.statements_onLines_iff hcontent hnames⟩

/-! ### Components with an import between statements -/

/-- A component with a module script that consists of a text. -/
def moduleComponentOf (code : Text) : Text :=
  "<script module>".toList ++ code ++ "</script>".toList

/-- The document of such a component. -/
def moduleDocumentOf (code : Text) : Document :=
  let span := ⟨0, 24 + code.size⟩
  ⟨[.element ⟨"script".toList, [⟨"module".toList, .empty, ⟨8, 14⟩⟩], false⟩
    [.text code ⟨15, 15 + code.size⟩] span], span⟩

/-- The module of a component with an import and with module statements. -/
def moduleWith (imported : String) (moduleBody : List Text) : Text :=
  componentText [imported.toList] moduleBody [] "    <></>\n".toList

/-- Statements that an import keeps apart. -/
def parted : Text := "let a = 1\nimport\"b\"\nb()".toList

/-- The statements without the import. -/
def partedTexts : List Text := ["let a = 1".toList, "b()".toList]

/-- Such statements are read again as they were written. -/
theorem compile_rereads_parted :
    compile {} [] (moduleComponentOf parted) = .ok ⟨moduleWith "import\"b\"" partedTexts, []⟩ ∧
      (scriptOf (onLines partedTexts)).statements (componentOf (onLines partedTexts)) =
        .ok [⟨false, ⟨8, 17⟩⟩, ⟨false, ⟨18, 21⟩⟩] ∧
      Script.ReadOnLines partedTexts := by
  have hcompile : compile {} [] (moduleComponentOf parted) =
      .ok ⟨moduleWith "import\"b\"" partedTexts, []⟩ := by decide +kernel
  have hagain : (scriptOf (onLines partedTexts)).statements (componentOf (onLines partedTexts)) =
      .ok [⟨false, ⟨8, 17⟩⟩, ⟨false, ⟨18, 21⟩⟩] := by decide +kernel
  have hparse : parse (moduleComponentOf parted) = .ok (moduleDocumentOf parted) := by
    decide +kernel
  have hread : topStatements (moduleComponentOf parted)
      (Parts.ofNodes (moduleDocumentOf parted).nodes).scripts =
        .ok [⟨⟨false, ⟨15, 24⟩⟩, true⟩, ⟨⟨true, ⟨25, 34⟩⟩, true⟩, ⟨⟨false, ⟨35, 38⟩⟩, true⟩] := by
    decide +kernel
  have hnames : Span.Names (componentOf (onLines partedTexts)) ⟨8, 22⟩ (onLines partedTexts) :=
    Span.names_iff.2 ⟨"<script>".toList, "</script>".toList, rfl, by decide +kernel⟩
  refine ⟨hcompile, hagain, ?_⟩
  obtain ⟨document, statements, rest, hparse', hread', -, hiff⟩ := compile_rereads_iff hcompile
  obtain rfl : moduleDocumentOf parted = document := Except.ok.inj (hparse.symm.trans hparse')
  obtain rfl := Except.ok.inj (hread.symm.trans hread')
  exact (hiff (componentOf (onLines partedTexts)) (scriptOf (onLines partedTexts)) ⟨8, 22⟩
    rfl hnames).1 ⟨_, hagain, by decide +kernel, by decide +kernel⟩

/-- Statements that only an import keeps apart. -/
def merging : Text := "let a = 1\nimport\"b\"\n(b)()".toList

/-- The statements without the import. -/
def mergingTexts : List Text := ["let a = 1".toList, "(b)()".toList]

/-- Such statements are read again as a single one. -/
theorem not_compile_rereads_merging :
    compile {} [] (moduleComponentOf merging) = .ok ⟨moduleWith "import\"b\"" mergingTexts, []⟩ ∧
      parse (moduleComponentOf merging) = .ok (moduleDocumentOf merging) ∧
      topStatements (moduleComponentOf merging)
        (Parts.ofNodes (moduleDocumentOf merging).nodes).scripts =
          .ok [⟨⟨false, ⟨15, 24⟩⟩, true⟩, ⟨⟨true, ⟨25, 34⟩⟩, true⟩, ⟨⟨false, ⟨35, 40⟩⟩, true⟩] ∧
      textsIn (moduleComponentOf merging)
        [⟨⟨false, ⟨15, 24⟩⟩, true⟩, ⟨⟨true, ⟨25, 34⟩⟩, true⟩, ⟨⟨false, ⟨35, 40⟩⟩, true⟩]
          .moduleBody = mergingTexts ∧
      (scriptOf (onLines mergingTexts)).statements (componentOf (onLines mergingTexts)) =
        .ok [⟨false, ⟨8, 23⟩⟩] := by
  refine ⟨?_, ?_, ?_, ?_, ?_⟩ <;> decide +kernel

end OneFile
