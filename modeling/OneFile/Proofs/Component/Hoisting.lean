import OneFile.Component.Compile
import OneFile.Proofs.Component.Sorting
import OneFile.Proofs.Markup.Lossless
import OneFile.Proofs.Text.Order

/-!
# Where script statements go

The module of a component holds every statement of its scripts once: imports first, then the rest
of the module scripts, and the rest of the instance scripts in the component function.

## Main definitions

* `OneFile.ScriptBlock.SplitInOrder` — what is relied on about splitting a script into statements.
* `OneFile.componentText` — a module by the texts that it is made of.
* `OneFile.SortedInto` — buckets that hold given statements, each in its place.

## Main results

* `OneFile.Markup.Node.Stands.contentSpan` — the content of an element lies within it.
* `OneFile.topStatements_inOrder` — the statements of all scripts are in order in the source.
* `OneFile.compile_sorts_statements` — the module is made of all statements in their places.

## Design

Scripts are split by any reader. What is relied on is that the spans it gives are in order within
the script; that they are in order within the document then follows from how the scripts stand in
it.
-/

namespace OneFile

namespace Markup

/-! ### The content of an element -/

/-- The attributes of a tag end at a character boundary. -/
lemma AttributesStand.isBoundary_stop {source mark : Text} {as : List Attribute} {start stop : Nat}
    (h : AttributesStand source mark as start stop) : source.IsBoundary stop := by
  induction h with
  | close _ hnames => exact hnames.isBoundary_stop
  | cons _ _ _ _ ih => exact ih

/-- An opening tag lies between two character boundaries. -/
lemma Tag.Stands.isBoundary {source : Text} {tag : Tag} {start stop : Nat}
    (h : tag.Stands source start stop) : source.IsBoundary start ∧ source.IsBoundary stop := by
  obtain ⟨nameStop, closed, hname, has, -⟩ := h
  exact ⟨hname.isBoundary_start, has.isBoundary_stop⟩

/-- A node that stands in a source lies between two character boundaries. -/
lemma Node.Stands.isBoundary {source : Text} {node : Node} (h : node.Stands source) :
    source.IsBoundary node.span.start ∧ source.IsBoundary node.span.stop := by
  cases h with
  | text _ hnames => exact ⟨hnames.isBoundary_start, hnames.isBoundary_stop⟩
  | expression hnames => exact ⟨hnames.isBoundary_start, hnames.isBoundary_stop⟩
  | comment hnames => exact ⟨hnames.isBoundary_start, hnames.isBoundary_stop⟩
  | declaration hnames => exact ⟨hnames.isBoundary_start, hnames.isBoundary_stop⟩
  | closed htag _ => exact htag.isBoundary
  | element htag _ _ _ _ _ hnames => exact ⟨htag.isBoundary.1, hnames.isBoundary_stop⟩

/-- The last of some tiles ends where all of them do. -/
lemma Tiles.getLast_stop {start stop : Nat} {spans : List Span} {last : Span}
    (h : Tiles start spans stop) (hlast : spans.getLast? = some last) : last.stop = stop := by
  induction spans generalizing start with
  | nil => simp at hlast
  | cons span spans ih =>
    cases spans with
    | nil =>
      obtain rfl : span = last := by simpa using hlast
      exact h.2.2
    | cons next spans =>
      rw [List.getLast?_cons_cons] at hlast
      exact ih h.2.2 hlast

/-- **The content of an element lies within it**, after its opening tag and between character
boundaries. -/
lemma Node.Stands.contentSpan {source : Text} {tag : Tag} {children : List Node}
    {span content : Span} (h : (Node.element tag children span).Stands source)
    (hcontent : Element.contentSpan? ⟨tag, children, span⟩ = some content) :
    content.Names source (content.slice source) ∧ span.start ≤ content.start ∧
      content.stop ≤ span.stop := by
  cases h with
  | closed _ _ => simp [Element.contentSpan?] at hcontent
  | @element _ _ _ opened closed _ htag _ htiles _ hchildren _ hnames =>
    cases children with
    | nil => simp [Element.contentSpan?] at hcontent
    | cons first rest =>
      obtain ⟨last, hlast⟩ : ∃ last, (first :: rest).getLast? = some last :=
        ⟨_, List.getLast?_eq_some_getLast (by simp)⟩
      simp only [Element.contentSpan?, List.head?_cons, hlast, Option.some.injEq] at hcontent
      have hstart : first.span.start = opened := htiles.1
      have hstop : last.span.stop = closed :=
        htiles.getLast_stop (by rw [List.getLast?_map, hlast]; rfl)
      have hle : opened ≤ closed := htiles.start_le_stop
      subst hcontent
      refine ⟨⟨rfl, (hchildren first (by simp)).isBoundary.1,
        (hchildren last (List.mem_of_getLast? hlast)).isBoundary.2, ?_⟩, ?_, ?_⟩
      · simp only [hstart, hstop]
        exact hle
      · simp only [hstart]
        exact htag.start_lt_stop.le
      · simp only [hstop]
        exact hnames.start_le_stop

end Markup

open Markup

variable {readers : Readers}

/-! ### The statements of a document -/

/-- **What is relied on about splitting a script**: the spans of its statements are in order within
its content. None is empty, each lies on character boundaries, and they do not overlap. -/
def ScriptBlock.SplitInOrder (source : Text) (block : ScriptBlock) (readers : Readers := .own) :
    Prop :=
  ∀ content ∈ block.element.contentSpan?,
    ∀ statements, readers.statements (content.slice source) = .ok statements →
      Span.InOrder (content.slice source) ⟨0, (content.slice source).size⟩
        (statements.map Script.Statement.span)

/-- The statements of a script that stands in the source are in order within it. -/
lemma ScriptBlock.topStatements_inOrder {source : Text} {block : ScriptBlock}
    {statements : List TopStatement}
    (hstands : (Node.element block.element.tag block.element.children
      block.element.span).Stands source)
    (hsplit : block.SplitInOrder source readers)
    (h : block.topStatements source readers = .ok statements) :
    Span.InOrder source block.element.span (statements.map (·.span)) := by
  unfold ScriptBlock.topStatements ScriptBlock.statements at h
  cases hcontent : block.element.contentSpan? with
  | none =>
    simp only [hcontent, Except.ok.injEq] at h
    subst h
    exact .nil _ _
  | some content =>
    obtain ⟨hnames, hstart, hstop⟩ := hstands.contentSpan hcontent
    cases hread : readers.statements (content.slice source) with
    | error message => simp [hcontent, hread] at h
    | ok read =>
      simp only [hcontent, hread, Except.ok.injEq] at h
      subst h
      have horder := (hsplit content hcontent read hread).shift hnames
      simpa [Function.comp_def, Script.Statement.shift] using horder.widen hstart hstop

/-- A node that is a script is the element of that script. -/
lemma eq_of_scriptBlock? {node : Node} {block : ScriptBlock} (h : scriptBlock? node = some block) :
    node = .element block.element.tag block.element.children block.element.span := by
  cases node with
  | element tag children span =>
    simp only [scriptBlock?] at h
    split_ifs at h
    obtain rfl := Option.some.inj h
    rfl
  | text => simp [scriptBlock?] at h
  | expression => simp [scriptBlock?] at h
  | comment => simp [scriptBlock?] at h

/-- **The statements of all scripts are in order in the source.**

**Proof sketch.** Induction on the nodes of the document: the statements of a script lie within its
node, and the nodes tile the source. -/
lemma topStatements_inOrder {source : Text} {nodes : List Node} {start stop : Nat}
    {statements : List TopStatement} (htiles : Tiles start (nodes.map Node.span) stop)
    (hstand : ∀ node ∈ nodes, node.Stands source)
    (hsplit : ∀ block ∈ nodes.filterMap scriptBlock?, block.SplitInOrder source readers)
    (h : topStatements source (nodes.filterMap scriptBlock?) readers = .ok statements) :
    Span.InOrder source ⟨start, stop⟩ (statements.map (·.span)) := by
  induction nodes generalizing start statements with
  | nil =>
    simp only [List.filterMap_nil, topStatements, Except.ok.injEq] at h
    subst h
    exact .nil _ _
  | cons node nodes ih =>
    obtain ⟨rfl, hlt, htail⟩ := htiles
    have hle : node.span.stop ≤ stop := htail.start_le_stop
    have hnodes : ∀ n ∈ nodes, n.Stands source := fun n hn => hstand n (List.mem_cons_of_mem _ hn)
    cases hblock : scriptBlock? node with
    | none =>
      rw [List.filterMap_cons_none hblock] at h hsplit
      exact (ih htail hnodes hsplit h).widen hlt.le le_rfl
    | some block =>
      rw [List.filterMap_cons_some hblock] at h hsplit
      have heq := eq_of_scriptBlock? hblock
      have hspan : node.span = block.element.span := by rw [heq]; rfl
      have hself := hstand node (by simp)
      rw [heq] at hself
      rw [topStatements] at h
      cases hread : block.topStatements source readers with
      | error e => simp [hread] at h
      | ok read =>
        cases hrest : topStatements source (nodes.filterMap scriptBlock?) readers with
        | error e => simp [hread, hrest] at h
        | ok rest =>
          simp only [hread, hrest, Except.ok.injEq] at h
          subst h
          have hfirst := block.topStatements_inOrder hself (hsplit block (by simp)) hread
          have hlater := ih htail hnodes (fun b hb => hsplit b (List.mem_cons_of_mem _ hb)) hrest
          rw [List.map_append]
          rw [← hspan] at hfirst
          exact hfirst.append hlater hlt.le hle

/-! ### The text of a module -/

/-- Texts on lines of their own, and an empty line after the last one. -/
def linesOf (texts : List Text) : Text :=
  if texts.isEmpty then [] else texts.flatMap (· ++ ['\n']) ++ ['\n']

/-- **A module by the texts that it is made of**: imports, module statements, and a function of
instance statements, each after two spaces and without blanks at line ends, and of what is
returned. -/
def componentText (imports moduleBody instanceBody : List Text) (returned : Text) : Text :=
  linesOf imports ++ linesOf moduleBody ++ "export default function(props) \x7b\n".toList ++
    linesOf (instanceBody.map fun t => ' ' :: ' ' :: Buckets.trimLines t) ++
    "  return (\n".toList ++ returned ++ "  );\n\x7d\n".toList

/-- The module of some buckets is made of the texts in them. -/
lemma Buckets.moduleText_eq (b : Buckets) :
    b.moduleText = componentText (b.imports.map Piece.text) (b.moduleBody.map Piece.text)
      (b.instanceBody.map Piece.text) b.templateText := by
  have hparagraph : ∀ pieces : List Piece,
      Buckets.paragraph pieces = linesOf (pieces.map Piece.text) := by
    intro pieces
    simp [Buckets.paragraph, linesOf, List.flatMap_map]
  have hinstance : b.instanceText =
      linesOf ((b.instanceBody.map Piece.text).map fun t => ' ' :: ' ' :: Buckets.trimLines t) := by
    simp [Buckets.instanceText, linesOf, List.flatMap_map]
  rw [Buckets.moduleText, componentText, hparagraph, hparagraph, hinstance]

/-! ### Sorted buckets -/

/-- A piece stands before another one in the source, and they do not overlap. -/
def Piece.Before (p q : Piece) : Prop :=
  ∃ r r', p.range = some r ∧ q.range = some r' ∧ r.start < r'.start ∧ r.stop ≤ r'.start

/-- The texts of the statements in one place, in order. -/
def textsIn (source : Text) (statements : List TopStatement) (place : Place) : List Text :=
  (statements.filter (·.place = place)).map fun s => s.span.slice source

/-- **Buckets that hold statements, each in its place**: a bucket holds just the statements that
belong into it, as they stand in the source and in order, and every statement is in one bucket
once. -/
structure SortedInto (source : Text) (statements : List TopStatement) (b : Buckets) : Prop where
  pieces_eq : ∀ place, b.pieces place =
    (statements.filter (·.place = place)).map (TopStatement.piece source)
  perm : (b.imports ++ b.moduleBody ++ b.instanceBody).Perm
    (statements.map (TopStatement.piece source))
  nodup : (b.imports ++ b.moduleBody ++ b.instanceBody).Nodup
  verbatim : ∀ place, ∀ p ∈ b.pieces place,
    ∃ range, p.range = some range ∧ range.Names source p.text
  increasing : ∀ place, (b.pieces place).Pairwise Piece.Before

/-- Statements in order have pieces one before the other. -/
lemma pairwise_before {source : Text} {outer : Span} {statements : List TopStatement}
    (h : Span.InOrder source outer (statements.map (·.span))) :
    (statements.map (TopStatement.piece source)).Pairwise Piece.Before := by
  have hstart := List.pairwise_map.1 h.increasing
  have hstop := List.pairwise_map.1 h.apart
  refine List.pairwise_map.2 ((hstart.and hstop).imp fun {s t} hst => ?_)
  exact ⟨s.span, t.span, rfl, rfl, hst.1, hst.2⟩

/-- Buckets that hold just the statements in order that belong into them hold them sorted. -/
lemma sortedInto_of_pieces {source : Text} {outer : Span} {statements : List TopStatement}
    {b : Buckets} (h : Span.InOrder source outer (statements.map (·.span)))
    (hpieces : ∀ place, b.pieces place =
      (statements.filter (·.place = place)).map (TopStatement.piece source)) :
    SortedInto source statements b := by
  have hperm : (b.imports ++ b.moduleBody ++ b.instanceBody).Perm
      (statements.map (TopStatement.piece source)) := by
    have himports : b.imports = _ := hpieces .imports
    have hmodule : b.moduleBody = _ := hpieces .moduleBody
    have hinstance : b.instanceBody = _ := hpieces .instanceBody
    rw [himports, hmodule, hinstance, ← List.map_append, ← List.map_append]
    exact (Buckets.perm_filter_place statements).map _
  refine ⟨hpieces, hperm, ?_, fun place p hp => ?_, fun place => ?_⟩
  · refine hperm.nodup_iff.2 ((pairwise_before h).imp ?_)
    rintro p q ⟨r, r', hr, hr', hlt, -⟩ rfl
    obtain rfl : r = r' := Option.some.inj (hr.symm.trans hr')
    exact lt_irrefl _ hlt
  · rw [hpieces] at hp
    obtain ⟨s, hs, rfl⟩ := List.mem_map.1 hp
    refine ⟨s.span, rfl, h.names s.span (List.mem_map_of_mem ?_)⟩
    exact List.mem_of_mem_filter hs
  · rw [hpieces]
    exact pairwise_before (h.sublist (List.filter_sublist.map _))

/-- The texts in a bucket that holds its statements are theirs. -/
lemma SortedInto.texts_eq {source : Text} {statements : List TopStatement} {b : Buckets}
    (h : SortedInto source statements b) (place : Place) :
    (b.pieces place).map Piece.text = textsIn source statements place := by
  rw [h.pieces_eq, List.map_map]
  rfl

/-! ### Compiling -/

/-- What a compilation that succeeds has read and filled. -/
lemma compile_eq_ok {options : CompileOptions} {fresh source : Text} {output : CompileOutput}
    (h : compile options fresh source readers = .ok output) :
    ∃ document b, parse source = .ok document ∧
      fillBuckets source (options.scopeId? fresh source) document readers = .ok b ∧
      output = ⟨b.moduleText, b.styleText⟩ := by
  unfold compile readDocument at h
  cases hparse : parse source with
  | error e => simp [hparse] at h
  | ok document =>
    cases hfill : fillBuckets source (options.scopeId? fresh source) document readers with
    | error e => simp [hparse, hfill] at h
    | ok b =>
      simp only [hparse, hfill, Except.ok.injEq] at h
      exact ⟨document, b, rfl, hfill, h.symm⟩

/-- What the buckets of a document are filled with. -/
lemma fillBuckets_eq_ok {source : Text} {scopeId : Option Text} {document : Document}
    {b : Buckets} (h : fillBuckets source scopeId document readers = .ok b) :
    ∃ statements styles,
      topStatements source (Parts.ofNodes document.nodes).scripts readers = .ok statements ∧
      b = { statements.foldl (Buckets.addTop source) {} with
        template := templatePieces scopeId (Parts.ofNodes document.nodes).template
        shape := .ofNodes (Parts.ofNodes document.nodes).template
        styles := styles } := by
  simp only [fillBuckets, Buckets.addScripts_eq] at h
  cases hread : topStatements source (Parts.ofNodes document.nodes).scripts readers with
  | error e => simp [hread] at h
  | ok statements =>
    cases hstyles : stylePieces source scopeId (Parts.ofNodes document.nodes).styles readers with
    | error e => simp [hread, hstyles] at h
    | ok styles =>
      simp only [hread, hstyles, Except.ok.injEq] at h
      exact ⟨statements, styles, rfl, h.symm⟩

/-- **Compiling sorts statements.** Let the scripts of a document be split in order, by whatever
reader. If its source compiles, its buckets hold the statements of all scripts, each in its place,
and the module is made of the texts of imports, of module statements and of instance statements, in
the order in which they stand in the document, and of the returned template. And a script that is
rejected leaves the buckets as they were, whatever they hold.

**Proof sketch.** The nodes of the document tile the source, so the statements of all scripts are
in order; buckets that are filled with them one by one hold the statements of each place, and the
module is written from the buckets. -/
theorem compile_sorts_statements {options : CompileOptions} {fresh source : Text}
    {document : Document} {output : CompileOutput} (hparse : parse source = .ok document)
    (hsplit : ∀ block ∈ (Parts.ofNodes document.nodes).scripts, block.SplitInOrder source readers)
    (h : compile options fresh source readers = .ok output) :
    (∃ statements b,
      topStatements source (Parts.ofNodes document.nodes).scripts readers = .ok statements ∧
      fillBuckets source (options.scopeId? fresh source) document readers = .ok b ∧
      SortedInto source statements b ∧
      output.code = componentText (textsIn source statements .imports)
        (textsIn source statements .moduleBody) (textsIn source statements .instanceBody)
        b.templateText) ∧
    ∀ (block : ScriptBlock) (e : CompileError) (b b' : Buckets),
      Buckets.Filling.fill (Buckets.putScript source block readers) b = (.error e, b') →
        b' = b := by
  refine ⟨?_, fun block e b b' => Buckets.fill_putScript_error⟩
  obtain ⟨document', b, hparse', hfill, rfl⟩ := compile_eq_ok h
  obtain rfl : document' = document := Except.ok.inj (hparse'.symm.trans hparse)
  obtain ⟨statements, styles, hread, hb⟩ := fillBuckets_eq_ok hfill
  have hsiblings := siblings_of_parse hparse
  have horder : Span.InOrder source ⟨0, source.size⟩ (statements.map (·.span)) :=
    topStatements_inOrder hsiblings.tiles hsiblings.stand hsplit hread
  have hsorted : SortedInto source statements b := by
    refine sortedInto_of_pieces horder fun place => ?_
    have hpieces := Buckets.pieces_foldl_addTop source statements {} place
    rw [hb]
    cases place <;> exact hpieces
  refine ⟨statements, b, hread, hfill, hsorted, ?_⟩
  rw [← hsorted.texts_eq, ← hsorted.texts_eq, ← hsorted.texts_eq]
  exact b.moduleText_eq

/-! ### A component of two scripts -/

/-- A component with an instance script, an expression, and a module script after it. -/
def twoScripts : Text := "<script>a</script>\x7bb\x7d<script module>import\"c\"</script>".toList

/-- The instance script of the component. -/
def instanceScript : Element := ⟨⟨"script".toList, [], false⟩, [.text "a".toList ⟨8, 9⟩], ⟨0, 18⟩⟩

/-- The module script of the component. -/
def moduleScript : Element :=
  ⟨⟨"script".toList, [⟨"module".toList, .empty, ⟨29, 35⟩⟩], false⟩,
    [.text "import\"c\"".toList ⟨36, 45⟩], ⟨21, 54⟩⟩

/-- The document of the component. -/
def twoScriptsDocument : Document :=
  ⟨[.element instanceScript.tag instanceScript.children instanceScript.span,
    .expression "b".toList ⟨18, 21⟩,
    .element moduleScript.tag moduleScript.children moduleScript.span], ⟨0, 54⟩⟩

/-- The module of the component. -/
def twoScriptsModule : Text :=
  ("import\"c\"\n\nexport default function(props) \x7b\n  a\n\n" ++
    "  return (\n    <>\n      \x7bb\x7d\n    </>\n  );\n\x7d\n").toList

/-- A script that is one statement is split in order. -/
lemma splitInOrder_of_whole {source code : Text} {block : ScriptBlock} {content : Span}
    {isImport : Bool} (hcontent : block.element.contentSpan? = some content)
    (hcode : content.slice source = code) (hne : code ≠ [])
    (hread : Readers.own.statements code = .ok [⟨isImport, ⟨0, code.size⟩⟩]) :
    block.SplitInOrder source := by
  intro content' hcontent' statements hstatements
  obtain rfl : content = content' := Option.some.inj (hcontent.symm.trans hcontent')
  rw [hcode] at hstatements ⊢
  obtain rfl := Except.ok.inj (hread.symm.trans hstatements)
  exact .whole hne

/-- The import at the end of the component comes first in its module. -/
theorem compile_sorts_two_scripts : ∃ statements b,
    topStatements twoScripts (Parts.ofNodes twoScriptsDocument.nodes).scripts = .ok statements ∧
      fillBuckets twoScripts none twoScriptsDocument = .ok b ∧ SortedInto twoScripts statements b ∧
      twoScriptsModule =
        componentText (textsIn twoScripts statements .imports)
          (textsIn twoScripts statements .moduleBody) (textsIn twoScripts statements .instanceBody)
          b.templateText := by
  have hparse : parse twoScripts = .ok twoScriptsDocument := by decide +kernel
  have hcompile : compile {} [] twoScripts = .ok ⟨twoScriptsModule, []⟩ := by
    decide +kernel
  have hinstance : Readers.own.statements "a".toList =
      .ok [⟨false, ⟨0, Text.size "a".toList⟩⟩] := by decide +kernel
  have hmodule : Readers.own.statements "import\"c\"".toList =
      .ok [⟨true, ⟨0, Text.size "import\"c\"".toList⟩⟩] := by decide +kernel
  have hscripts : (Parts.ofNodes twoScriptsDocument.nodes).scripts =
      [⟨instanceScript, false⟩, ⟨moduleScript, true⟩] := by decide +kernel
  refine (compile_sorts_statements hparse (fun block hblock => ?_) hcompile).1
  rw [hscripts] at hblock
  rcases List.mem_pair.1 hblock with rfl | rfl
  · exact splitInOrder_of_whole rfl (by decide +kernel) (by decide) hinstance
  · exact splitInOrder_of_whole rfl (by decide +kernel) (by decide) hmodule

end OneFile
