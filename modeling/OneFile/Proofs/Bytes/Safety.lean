import OneFile.Proofs.Bytes.Layout
import OneFile.Proofs.Bytes.Parser
import OneFile.Proofs.Script.Coverage

/-!
# Nothing is cut within a character

The stretches that are cut out of a source while a component is compiled: those that reading markup
needs, the contents of scripts and styles, the statements of scripts, the text before the place of
an error, and what is left of a line without its margin.

## Main definitions

* `OneFile.Readers.SplitAtBoundaries` — what is relied on about splitting a script.
* `OneFile.Bytewise.putScript?` — the statements of a script, cut out of the source.
* `OneFile.Bytewise.stylePiece?` — the content of a style, cut out of the source.

## Main results

* `OneFile.Bytewise.putScript?_eq`, `OneFile.Bytewise.stylePiece?_eq` — every cut is fine in a
  document that was read from the source.
* `OneFile.Bytewise.cuts_at_boundaries` — every cut is fine, whatever the source is.

## Design

Scripts are split by any reader. The spans that it gives are those of the script on its own, and
they are moved to where its content starts.
-/

namespace OneFile

/-- **What is relied on about splitting a script**: a statement goes from one boundary of the script
to a later one. -/
def Readers.SplitAtBoundaries (readers : Readers) : Prop :=
  ∀ code statements, readers.statements code = .ok statements → ∀ s ∈ statements,
    s.span.start ≤ s.span.stop ∧ code.IsBoundary s.span.start ∧ code.IsBoundary s.span.stop

/-- The readers of this library find statements at boundaries. -/
lemma Readers.splitAtBoundaries_own : Readers.own.SplitAtBoundaries := by
  intro code statements hread s hs
  obtain ⟨directives, haccounted⟩ := exists_accounted_own hread
  have hcode : Span.Names code ⟨0, code.size⟩ code := Span.names_iff.2 ⟨[], [], by simp, by simp⟩
  have hnames := (haccounted.inOrder hcode).names s.span
    (List.mem_append_right _ (List.mem_map_of_mem hs))
  exact ⟨hnames.start_le_stop, hnames.isBoundary_start, hnames.isBoundary_stop⟩

namespace Bytewise

open Markup Text

variable {source : Text}

/-! ### Contents -/

/-- The stretch that a span names, as a piece of output. -/
def verbatim? (source : Text) (range : Span) : Option Piece :=
  (source.slice? range.start range.stop).map fun text => ⟨text, some range⟩

/-- A span between boundaries names a piece. -/
lemma verbatim?_eq {range : Span} (h : range.Names source (range.slice source)) :
    verbatim? source range = some (.verbatim source range) := by
  rw [verbatim?, slice?_eq_some_iff.2 h]
  rfl

/-- The content of an element is cut out of the source that the element was read from. -/
lemma slice?_contentSpan {document : Document} {element : Element} {content : Span}
    (hparse : parse source = .ok document)
    (hwithin : Node.Within (.element element.tag element.children element.span) document.nodes)
    (hcontent : element.contentSpan? = some content) :
    source.slice? content.start content.stop = some (content.slice source) :=
  have hstands := hwithin.stands (siblings_of_parse hparse).stand
  slice?_eq_some_iff.2 (hstands.contentSpan hcontent).1

/-! ### Scripts -/

/-- Puts one statement of a module or instance script into its bucket. -/
def addStatement? (source : Text) (isModule : Bool) (b : Buckets) (s : Script.Statement) :
    Option Buckets :=
  (verbatim? source s.span).map fun piece =>
    if s.isImport then { b with imports := b.imports ++ [piece] }
    else if isModule then { b with moduleBody := b.moduleBody ++ [piece] }
    else { b with instanceBody := b.instanceBody ++ [piece] }

/-- **Reads a script and puts its statements into their buckets.** A failure leaves these as they
were. -/
def putScript? (source : Text) (block : ScriptBlock) (b : Buckets) (readers : Readers := .own) :
    Option (Except CompileError Unit × Buckets) :=
  match block.element.contentSpan? with
  | none => some (.ok (), b)
  | some content =>
    match source.slice? content.start content.stop with
    | none => none
    | some code =>
      match readers.statements code with
      | .error message => some (.error (.script block.element.span message), b)
      | .ok statements =>
        let shifted := statements.map (·.shift content.start)
        (shifted.foldlM (addStatement? source block.isModule) b).map fun b => (.ok (), b)

/-- Statements between boundaries are added as they are by characters. -/
lemma foldlM_addStatement? {isModule : Bool} {statements : List Script.Statement} (b : Buckets)
    (h : ∀ s ∈ statements, s.span.Names source (s.span.slice source)) :
    statements.foldlM (addStatement? source isModule) b =
      some (statements.foldl (Buckets.addStatement source isModule) b) := by
  induction statements generalizing b with
  | nil => rfl
  | cons s statements ih =>
    rw [List.forall_mem_cons] at h
    rw [List.foldlM_cons, addStatement?, verbatim?_eq h.1]
    exact ih _ h.2

/-- A statement at boundaries of the content of a script is at boundaries of the source. -/
lemma names_shift {code : Text} {content : Span} {s : Script.Statement}
    (hcontent : content.Names source code) (hs : s.span.start ≤ s.span.stop ∧
      code.IsBoundary s.span.start ∧ code.IsBoundary s.span.stop) :
    (s.shift content.start).span.Names source ((s.shift content.start).span.slice source) := by
  have hinner : s.span.Names code (s.span.slice code) := ⟨rfl, hs.2.1, hs.2.2, hs.1⟩
  have hshift := hcontent.shift hinner
  rwa [← hshift.slice_eq] at hshift

section Documents

variable {document : Document} {block : ScriptBlock} {readers : Readers}

/-- The statements of a script are put into their buckets as they are by characters. -/
lemma putScript?_of_statements {content : Span} {statements : List Script.Statement} (b : Buckets)
    (hsplit : readers.SplitAtBoundaries) (hparse : parse source = .ok document)
    (hwithin : Node.Within (.element block.element.tag block.element.children block.element.span)
      document.nodes)
    (hcontent : block.element.contentSpan? = some content)
    (hread : readers.statements (content.slice source) = .ok statements) :
    putScript? source block b readers = some (.ok (),
      (statements.map (·.shift content.start)).foldl
        (Buckets.addStatement source block.isModule) b) := by
  have hslice := slice?_contentSpan hparse hwithin hcontent
  have hnames : ∀ s ∈ statements.map (·.shift content.start),
      s.span.Names source (s.span.slice source) := by
    intro s hs
    obtain ⟨inner, hinner, rfl⟩ := List.mem_map.1 hs
    exact names_shift (slice?_eq_some_iff.1 hslice) (hsplit _ _ hread inner hinner)
  simp only [putScript?, hcontent, hslice, hread, foldlM_addStatement? b hnames, Option.map_some]

/-- **A script fills the buckets as it does by characters**, and every cut is fine, however it is
split between boundaries. -/
theorem putScript?_eq (b : Buckets) (hsplit : readers.SplitAtBoundaries)
    (hparse : parse source = .ok document)
    (hwithin : Node.Within (.element block.element.tag block.element.children block.element.span)
      document.nodes) :
    putScript? source block b readers = some ((Buckets.putScript source block readers).fill b) := by
  cases hcontent : block.element.contentSpan? with
  | none =>
    have hstatements : block.statements source readers = .ok [] := by
      rw [ScriptBlock.statements, hcontent]
    rw [Buckets.fill_putScript_ok hstatements]
    simp only [putScript?, hcontent, List.foldl_nil]
  | some content =>
    cases hread : readers.statements (content.slice source) with
    | error message =>
      simp only [putScript?, hcontent, slice?_contentSpan hparse hwithin hcontent, hread,
        Buckets.putScript, ScriptBlock.statements]
      rfl
    | ok statements =>
      have hstatements : block.statements source readers =
          .ok (statements.map (·.shift content.start)) := by
        simp only [ScriptBlock.statements, hcontent, hread]
      rw [Buckets.fill_putScript_ok hstatements,
        putScript?_of_statements b hsplit hparse hwithin hcontent hread]

/-! ### Styles -/

/-- **The piece of a style block**, if it has content: as it stands, or scoped if there is an id. -/
def stylePiece? (source : Text) (scopeId : Option Text) (style : Element)
    (readers : Readers := .own) : Option (Except CompileError (Option Piece)) :=
  match style.contentSpan?, scopeId with
  | none, _ => some (.ok none)
  | some content, none => (verbatim? source content).map fun piece => .ok (some piece)
  | some content, some id =>
    (source.slice? content.start content.stop).map fun css =>
      match readers.style id css with
      | .error message => .error (.style style.span message)
      | .ok css => .ok (some (.made css))

/-- **A style gives the piece that it gives by characters**, and every cut is fine. -/
theorem stylePiece?_eq {style : Element} (scopeId : Option Text)
    (hparse : parse source = .ok document)
    (hwithin : Node.Within (.element style.tag style.children style.span) document.nodes) :
    stylePiece? source scopeId style readers =
      some (stylePiece source scopeId style readers) := by
  unfold stylePiece? stylePiece
  cases hcontent : style.contentSpan? with
  | none => rfl
  | some content =>
    have hslice := slice?_contentSpan hparse hwithin hcontent
    cases scopeId with
    | none => exact congrArg (Option.map _) (verbatim?_eq (slice?_eq_some_iff.1 hslice))
    | some id => exact congrArg (Option.map _) hslice

end Documents

/-! ### All cuts -/

/-- **Nothing is cut out of range or within a character, whatever the source is.** Markup is read as
it is by characters, and so is the end of an expression from any offset on; every element of the
document gives the statements and the style that it gives by characters, whatever reads them as long
as scripts are split between boundaries; every error is located, and the margin is taken from every
text.

**Proof sketch.** Each of these reads byte by byte and cuts with `OneFile.Text.slice?`, so it would
give `none` if a cut failed. -/
theorem cuts_at_boundaries (source : Text) {readers : Readers}
    (hsplit : readers.SplitAtBoundaries) :
    parse? source = some (parse source) ∧
      (∀ start, endFrom? source start = some (Brace.endFrom? source start)) ∧
      (∀ document element, parse source = .ok document →
        Node.Within (.element element.tag element.children element.span) document.nodes →
        (∀ isModule b, putScript? source ⟨element, isModule⟩ b readers =
          some ((Buckets.putScript source ⟨element, isModule⟩ readers).fill b)) ∧
        ∀ scopeId, stylePiece? source scopeId element readers =
          some (stylePiece source scopeId element readers)) ∧
      (∀ e : CompileError, locate? source e.offset = some (e.locate source)) ∧
      dedent? source = some (dedent source) := by
  refine ⟨parse?_eq source, endFrom?_eq source, ?_, fun e => locate?_eq source e.offset,
    dedent?_eq source⟩
  intro document element hparse hwithin
  exact ⟨fun isModule b => putScript?_eq b hsplit hparse hwithin,
    fun scopeId => stylePiece?_eq scopeId hparse hwithin⟩

/-- A component with characters of two bytes in a script, in a value and in a text. -/
def accented : Text := "<script>f('é')</script><br t='é\x7bé\x7d'>é<".toList

/-- The script of that component. -/
def accentedScript : ScriptBlock :=
  ⟨⟨⟨"script".toList, [], false⟩, [.text "f('é')".toList ⟨8, 15⟩], ⟨0, 24⟩⟩, false⟩

/-- The document of that component. -/
def accentedDocument : Document :=
  ⟨[.element accentedScript.element.tag accentedScript.element.children ⟨0, 24⟩,
    .element ⟨"br".toList, [⟨"t".toList, .text [.text "é".toList, .expression "é".toList],
      ⟨28, 38⟩⟩], true⟩ [] ⟨24, 39⟩, .text "é<".toList ⟨39, 42⟩], ⟨0, 42⟩⟩

/-- Such a component is cut between its characters: its markup, the one statement of its script, and
the text before a place within a character. -/
theorem cuts_of_accented :
    Readers.own.SplitAtBoundaries ∧
      parse? accented = some (.ok accentedDocument) ∧
      putScript? accented accentedScript {} =
        some (.ok (), { instanceBody := [⟨"f('é')".toList, some ⟨8, 15⟩⟩] }) ∧
      locate? accented 12 = some ⟨1, 12⟩ := by
  have hparse : parse accented = .ok accentedDocument := by decide +kernel
  obtain ⟨hread, -, hdocument, hlocate, -⟩ :=
    cuts_at_boundaries accented Readers.splitAtBoundaries_own
  obtain ⟨hscripts, -⟩ := hdocument _ accentedScript.element hparse
    (.among List.mem_cons_self)
  refine ⟨Readers.splitAtBoundaries_own, by rw [hread, hparse], ?_, hlocate (.markup 12 [])⟩
  have hfill : (Buckets.putScript accented accentedScript).fill {} =
      (.ok (), { instanceBody := [⟨"f('é')".toList, some ⟨8, 15⟩⟩] }) := by decide +kernel
  exact (hscripts false {}).trans (congrArg some hfill)

end Bytewise

end OneFile
