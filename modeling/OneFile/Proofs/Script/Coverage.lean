import OneFile.Component.Buckets
import OneFile.Proofs.Component.Hoisting
import OneFile.Proofs.Script.Statements
import OneFile.Proofs.Text.Order

/-!
# What a script is made of

A script that is read is made up of its statements, of directives before the first of them, and of
blanks and comments in between. A first line that names the program to run it comes before all.

## Main definitions

* `OneFile.Script.LaidOut` — a text that is made up of the stretches that spans name.
* `OneFile.Script.IsDirective` — a string that stands as a statement of its own.
* `OneFile.Script.Accounted` — a script that is made up of directives and statements.

## Main results

* `OneFile.Script.accounted_of_statements?` — the statements of a script account for it.
* `OneFile.Readers.exists_accounted_own` — and so they do where blank scripts are not read.
* `OneFile.statements_account_for_script` — the statements of every script in a document are in
  order, and account for its content except for its directives.

## Design

A directive is read as a statement and then left out. So what is proved of the rounds of reading is
about directives and statements together, and the directives are told apart only in the end.
-/

namespace OneFile

namespace Script

open Cursor

/-! ### Texts made up of stretches -/

/-- **A text is made up of stretches**, one after the other, with nothing but blanks and comments
before each of them. None is empty; spans name them in a source in which the text starts at byte
`start`. -/
inductive LaidOut (start : Nat) : Text → List Span → Prop
  | nil : LaidOut start [] []
  | snoc {text gap piece : Text} {spans : List Span} (htext : LaidOut start text spans)
      (hgap : Trivia piece gap) (hpiece : piece ≠ []) :
      LaidOut start (text ++ gap ++ piece)
        (spans ++ [⟨start + (text ++ gap).size, start + (text ++ gap ++ piece).size⟩])

/-- Spans move with the text. -/
lemma LaidOut.shift {start : Nat} {text : Text} {spans : List Span} (n : Nat)
    (h : LaidOut start text spans) : LaidOut (n + start) text (spans.map (Span.shift n)) := by
  induction h with
  | nil => exact .nil
  | @snoc text gap piece spans _ hgap hpiece ih =>
    have hspan : Span.shift n ⟨start + (text ++ gap).size, start + (text ++ gap ++ piece).size⟩ =
        ⟨n + start + (text ++ gap).size, n + start + (text ++ gap ++ piece).size⟩ := by
      simp only [Span.shift, Nat.add_assoc]
    rw [List.map_append, List.map_singleton, hspan]
    exact .snoc ih hgap hpiece

/-- **Stretches that make up a text are in order.** -/
lemma LaidOut.inOrder {text before source : Text} {spans : List Span}
    (h : LaidOut before.size text spans) (after : Text)
    (hsource : source = before ++ text ++ after) :
    Span.InOrder source ⟨before.size, before.size + text.size⟩ spans := by
  induction h generalizing after with
  | nil => exact .nil _ _
  | @snoc text gap piece spans _ hgap hpiece ih =>
    have hnames : Span.Names source ⟨before.size + (text ++ gap).size,
        before.size + (text ++ gap ++ piece).size⟩ piece := by
      refine Span.names_iff.2 ⟨before ++ (text ++ gap), after, by simp [hsource], ?_⟩
      simp [Nat.add_assoc]
    have hlast : Span.InOrder source ⟨before.size + text.size,
        before.size + (text ++ gap ++ piece).size⟩ [⟨before.size + (text ++ gap).size,
          before.size + (text ++ gap ++ piece).size⟩] := by
      have hpos := Text.size_pos hpiece
      refine ⟨fun s hs => ?_, ?_, ?_, List.pairwise_singleton _ _⟩
      · rwa [List.mem_singleton.1 hs, hnames.slice_eq]
      · simp [hpos]
      · simp
    refine (ih (gap ++ piece ++ after) (by simp [hsource])).append hlast ?_ ?_
    · exact Nat.le_add_right _ _
    · simp

/-- Without stretches there is no text. -/
lemma LaidOut.eq_nil {start : Nat} {text : Text} {spans : List Span} (h : LaidOut start text spans)
    (hspans : spans = []) : text = [] := by
  cases h with
  | nil => rfl
  | snoc => simp at hspans

/-- The first stretch comes after blanks and comments. -/
lemma LaidOut.exists_gap {start : Nat} {text : Text} {all spans : List Span} {span : Span}
    (h : LaidOut start text all) (hall : all = span :: spans) :
    ∃ gap piece rest, text = gap ++ piece ++ rest ∧ Trivia piece gap ∧ piece ≠ [] ∧
      span.start = start + gap.size := by
  induction h generalizing spans with
  | nil => simp at hall
  | @snoc text gap piece before htext hgap hpiece ih =>
    cases before with
    | nil =>
      obtain rfl := htext.eq_nil rfl
      obtain ⟨rfl, -⟩ := List.cons.inj hall
      exact ⟨gap, piece, [], by simp, hgap, hpiece, rfl⟩
    | cons first before =>
      obtain ⟨rfl, -⟩ := List.cons.inj hall
      obtain ⟨g, p, rest, rfl, hg, hp, hstart⟩ := ih rfl
      exact ⟨g, p, rest ++ gap ++ piece, by simp, hg, hp, hstart⟩

/-! ### Directives -/

/-- **A directive**: a string that stands as a statement of its own, with a semicolon after it or
without. -/
def IsDirective (s : Text) : Prop :=
  ∃ literal ending, IsStringLiteral literal ∧ s = literal ++ ending ∧
    (ending = [] ∨ ∃ gap, Trivia [';'] gap ∧ ending = gap ++ [';'])

variable {code : Text} {st st' : State} {start c c' : Cursor} {piece : Text}

/-- What is read between two places of a script. -/
lemma exists_reads_of_passes (h : st.Stands code) (hpasses : st.Passes st') (hc : c.In code)
    (hoffset : c.offset = st.lastStop) :
    ∃ gap start piece c', c.Reads gap start ∧ start.offset = st.current.span.start ∧
      Trivia piece gap ∧ piece ≠ [] ∧ start.Reads piece c' ∧ c'.In code ∧
      c'.offset = st'.lastStop := by
  obtain ⟨c₀, hc₀, hoffset₀, gap, start, hgap, hreads, token, hcut⟩ := id h
  obtain rfl : c₀ = c := hc₀.eq hc (hoffset₀.trans hoffset.symm)
  obtain ⟨c', hc', hoffset', -⟩ := h.leads hpasses.leads
  have hstart : start.offset = st.current.span.start := (congrArg Span.start hcut.span_eq).symm
  have hlt : start.offset < c'.offset := by
    rw [hstart, hoffset']
    exact h.lt_of_passes hpasses
  obtain ⟨piece, hpiece⟩ := (hc₀.of_reads hreads).before hc' hlt.le
  have hne : piece ≠ [] := by
    rintro rfl
    simp [hpiece.offset_eq] at hlt
  refine ⟨gap, start, piece, c', hreads, hstart, ?_, hne, hpiece, hc', hoffset'⟩
  exact hgap.congr (by rw [hpiece.rest_eq, List.head?_append_of_ne_nil _ hne])

/-- What is read as a directive is one. -/
lemma isDirective_of_reads (h : st.Stands code) (hdirective : st.ReadsDirective st')
    (hstart : start.In code) (hoffset : start.offset = st.current.span.start)
    (hpiece : start.Reads piece c') (hoffset' : c'.offset = st'.lastStop) : IsDirective piece := by
  obtain ⟨st₁, hleads, ⟨htoken, hstop⟩, hend⟩ := hdirective
  obtain ⟨c₀, hc₀, -, gap, start₀, -, hreads, literal, hcut⟩ := id h
  have hstart₀ := hc₀.of_reads hreads
  obtain rfl : start₀ = start :=
    hstart₀.eq hstart ((congrArg Span.start hcut.span_eq).symm.trans hoffset.symm)
  have hliteral : IsStringLiteral literal := by
    have := hcut.spells
    rwa [htoken] at this
  have hafter : st.after.offset = st₁.lastStop :=
    (congrArg Span.stop hcut.span_eq).symm.trans hstop.symm
  obtain ⟨c₁, hc₁, hoffset₁, gap₁, start₁, hgap₁, hreads₁, token₁, hcut₁⟩ := h.leads hleads
  have hin := hstart₀.of_reads hcut.reads
  obtain rfl : st.after = c₁ := hin.eq hc₁ (hafter.trans hoffset₁.symm)
  rcases hend with hlast | ⟨hsemicolon, hlast⟩
  · obtain rfl : st.after = c' := hin.eq (hstart.of_reads hpiece)
      (hafter.trans (hlast.symm.trans hoffset'.symm))
    exact ⟨literal, [], hliteral, by simp [hpiece.eq hcut.reads], .inl rfl⟩
  · obtain rfl : token₁ = [';'] := by
      have := hcut₁.spells
      rwa [hsemicolon] at this
    have hall : start₀.Reads (literal ++ (gap₁ ++ [';'])) st₁.after :=
      hcut.reads.trans (hreads₁.trans hcut₁.reads)
    have hstop₁ : st₁.after.offset = c'.offset :=
      (congrArg Span.stop hcut₁.span_eq).symm.trans (hlast.symm.trans hoffset'.symm)
    obtain rfl : st₁.after = c' :=
      (hstart.of_reads hall).eq (hstart.of_reads hpiece) hstop₁
    refine ⟨literal, gap₁ ++ [';'], hliteral, hpiece.eq hall, .inr ⟨gap₁, ?_, rfl⟩⟩
    exact hgap₁.congr (by rw [hcut₁.reads.rest_eq]; rfl)

/-! ### Reading statements -/

/-- **What has been read of a script** from `first` on is made up of the stretches that spans
name. -/
structure Covers (code : Text) (first : Cursor) (spans : List Span) (st : State) : Prop where
  stands : st.Stands code
  laidOut : ∃ text c, c.In code ∧ c.offset = st.lastStop ∧ first.Reads text c ∧
    LaidOut first.offset text spans

variable {first : Cursor} {spans : List Span}

/-- One more stretch that is read is one more stretch of what has been read. -/
lemma Covers.snoc (h : Covers code first spans st) (hpasses : st.Passes st') :
    Covers code first (spans ++ [⟨st.current.span.start, st'.lastStop⟩]) st' := by
  obtain ⟨hstands, text, c, hc, hoffset, hreads, hlaid⟩ := h
  obtain ⟨gap, start, piece, c', hgap, hstart, htrivia, hne, hpiece, hc', hoffset'⟩ :=
    exists_reads_of_passes hstands hpasses hc hoffset
  have hall : first.Reads (text ++ gap ++ piece) c' := (hreads.trans hgap).trans hpiece
  refine ⟨hstands.leads hpasses.leads, _, c', hc', hoffset', hall, ?_⟩
  rw [← hstart, ← hoffset', (hreads.trans hgap).offset_eq, hall.offset_eq]
  exact .snoc hlaid htrivia hne

/-- A directive that is read is named by where it was read. -/
lemma Covers.isDirective (h : Covers code first spans st) (hpasses : st.Passes st')
    (hdirective : st.ReadsDirective st') :
    IsDirective (Span.slice code ⟨st.current.span.start, st'.lastStop⟩) := by
  obtain ⟨hstands, text, c, hc, hoffset, -, -⟩ := h
  obtain ⟨gap, start, piece, c', hgap, hstart, -, -, hpiece, hc', hoffset'⟩ :=
    exists_reads_of_passes hstands hpasses hc hoffset
  have hin := hc.of_reads hgap
  rw [← hstart, ← hoffset', (hpiece.names hin).slice_eq]
  exact isDirective_of_reads hstands hdirective hin hstart hpiece hoffset'

/-- At the end of a script nothing but blanks and comments is left. -/
lemma Covers.exists_trivia (h : Covers code first spans st)
    (hend : st.current.token = .endOfInput) :
    ∃ text gap, first.rest = text ++ gap ∧ LaidOut first.offset text spans ∧ Trivia [] gap := by
  obtain ⟨hstands, text, c, hc, hoffset, hreads, hlaid⟩ := h
  obtain ⟨c₀, hc₀, hoffset₀, gap, start, hgap, hgapreads, token, hcut⟩ := hstands
  obtain rfl : c₀ = c := hc₀.eq hc (hoffset₀.trans hoffset.symm)
  obtain rfl : token = [] := by
    have := hcut.spells
    rwa [hend] at this
  have hrest : start.rest = [] := hcut.reads.rest_eq.trans (by simpa using hcut.ends hend)
  rw [hrest] at hgap
  exact ⟨text, gap, by rw [hreads.rest_eq, hgapreads.rest_eq, hrest, List.append_nil], hlaid, hgap⟩

namespace Rule

variable {eng : Engine} (hgoal : ∀ (g : Goal) (st : State), Gives eng st (goal g) (g.Reads st))

include hgoal

/-- What is read of a statement at the top level. -/
lemma gives_topStatement : Gives eng st topStatement fun read st' => st.Passes st' ∧
    read.2.span = ⟨st.current.span.start, st'.lastStop⟩ ∧
    (read.1 = .string → st.ReadsDirective st') := by
  have hstart : Gives eng st start fun n st' => n = st.current.span.start ∧ st' = st :=
    gives_here (gives_pure ⟨rfl, rfl⟩)
  refine hstart.bind fun n st₁ _ h₁ => ?_
  obtain ⟨rfl, rfl⟩ := h₁
  refine (hgoal (.statement false) st₁).bind fun s st₂ _ h₂ => ?_
  exact gives_here (gives_pure ⟨h₂.1, rfl, h₂.2⟩)

/-- **The statements of a script**, and the directives before them, cover what is read. -/
lemma gives_topStatements (h : Covers code first [] st) :
    Gives eng st topStatements fun statements st' => st'.current.token = .endOfInput ∧
      ∃ directives, Covers code first (directives ++ statements.map Statement.span) st' ∧
        ∀ d ∈ directives, IsDirective (d.slice code) := by
  refine gives_loop (fun read st' => ∃ directives,
      Covers code first (directives ++ read.reverse.map Statement.span) st' ∧
        ∀ d ∈ directives, IsDirective (d.slice code)) ⟨[], h, by simp⟩ fun read st₁ _ h₁ => ?_
  obtain ⟨directives, hcovers, hdirectives⟩ := h₁
  refine gives_token (gives_ite (fun hend => ?_) fun _ => ?_)
  · exact gives_pure ⟨by simpa using hend, directives, hcovers, hdirectives⟩
  refine stays_token.gives_bind fun token => ?_
  refine (gives_topStatement hgoal).bind fun top st₂ _ htop => ?_
  obtain ⟨shape, statement⟩ := top
  obtain ⟨hpasses, hspan, hshape⟩ := htop
  have hcovers' := hcovers.snoc hpasses
  rw [← hspan] at hcovers'
  refine gives_ite (fun hdirects => ?_) fun _ => ?_
  · simp only [Bool.and_eq_true, List.isEmpty_iff] at hdirects
    obtain ⟨⟨rfl, -⟩, hstring⟩ := hdirects
    have hdirective := hcovers.isDirective hpasses (hshape (by cases shape <;> simp_all))
    rw [← hspan] at hdirective
    refine gives_pure ⟨directives ++ [statement.span], by simpa using hcovers', fun d hd => ?_⟩
    rcases List.mem_append.1 hd with hd | hd
    · exact hdirectives d hd
    · rwa [List.mem_singleton.1 hd]
  · exact gives_pure ⟨directives, by simpa using hcovers', hdirectives⟩

end Rule

/-! ### Scripts -/

/-- **A first line that names the program** to run a script: a line that starts with its mark, or
nothing. -/
def IsRunnerLine (rest line : Text) : Prop :=
  line = [] ∨ ∃ body, line = '#' :: '!' :: body ∧ (∀ c ∈ body, endsLine c = false) ∧
    ∀ c ∈ rest.head?, endsLine c = true

/-- **A script is accounted for** by spans of directives and then of statements, in a source in
which it starts at byte `start`: it is made up of a line that names the program to run it, of the
stretches that the spans name, and of blanks and comments. -/
def Accounted (source code : Text) (start : Nat) (directives statements : List Span) : Prop :=
  ∃ runner text gap, code = runner ++ text ++ gap ∧ IsRunnerLine (text ++ gap) runner ∧
    LaidOut (start + runner.size) text (directives ++ statements) ∧ Trivia [] gap ∧
    ∀ d ∈ directives, IsDirective (d.slice source)

/-- What comes before the first token is a line that names a program, or nothing. -/
lemma exists_runnerLine (code : Text) : ∃ runner,
    Cursor.Reads ⟨code, 0⟩ runner (skipRunnerLine ⟨code, 0⟩) ∧
      IsRunnerLine (skipRunnerLine ⟨code, 0⟩).rest runner := by
  unfold skipRunnerLine
  split
  · rename_i s hs
    have hreads := reads_skipWhile (fun d => !endsLine d) ⟨code, 0⟩
    have hmark : endsLine '#' = false ∧ endsLine '!' = false := ⟨rfl, rfl⟩
    refine ⟨_, hreads, .inr ⟨s.takeWhile fun d => !endsLine d, ?_, fun d hd => ?_, fun d hd => ?_⟩⟩
    · simp only at hs
      simp [hs, hmark]
    · simpa using List.all_eq_true.1 List.all_takeWhile d hd
    · have hdrop := List.head?_dropWhile_not (fun d => !endsLine d) code
      have hhead : (code.dropWhile fun d => !endsLine d).head? = some d := hd
      rw [hhead] at hdrop
      simpa using hdrop
  · exact ⟨[], ⟨rfl, rfl⟩, .inl rfl⟩

/-- The first token of a script stands in it. -/
lemma State.Stands.ofText (code : Text) : (State.ofText code).Stands code := by
  have hin : Cursor.In code ⟨code, 0⟩ := ⟨[], rfl, rfl⟩
  obtain ⟨runner, hrunner, -⟩ := exists_runnerLine code
  exact ⟨_, hin.of_reads hrunner, rfl, lex_follows _⟩

/-- **The statements of a script account for it**, with the directives before them.

**Proof sketch.** Reading goes from token to token (`State.Stands.leads`) and reads something for
every statement (`gives_read`), so what is read for each of them follows what was read before after
a gap. -/
theorem accounted_of_statements? {code : Text} {statements : List Statement}
    (h : statements? code = some statements) :
    ∃ directives, Accounted code code 0 directives (statements.map Statement.span) := by
  unfold statements? at h
  dsimp only at h
  split at h
  · rename_i read st hread
    split_ifs at h
    obtain rfl := Option.some.inj h
    have hin : Cursor.In code ⟨code, 0⟩ := ⟨[], rfl, rfl⟩
    obtain ⟨runner, hrunner, hline⟩ := exists_runnerLine code
    have hstart : Covers code (skipRunnerLine ⟨code, 0⟩) [] (.ofText code) :=
      ⟨.ofText code, [], _, hin.of_reads hrunner, rfl, ⟨rfl, rfl⟩, .nil⟩
    obtain ⟨hend, directives, hcovers, hdirectives⟩ :=
      Rule.gives_topStatements (gives_read _) hstart _ _ _ hread
    obtain ⟨text, gap, hrest, hlaid, hgap⟩ := hcovers.exists_trivia hend
    rw [hrest] at hline
    rw [hrunner.offset_eq] at hlaid
    refine ⟨directives, runner, text, gap, ?_, hline, hlaid, hgap, hdirectives⟩
    rw [List.append_assoc, ← hrest]
    exact hrunner.rest_eq
  · simp at h

variable {source : Text} {outer : Span} {directives statements : List Span}

/-- Directives and statements that account for a script are in order in it. -/
lemma Accounted.inOrder (houter : outer.Names source code)
    (h : Accounted source code outer.start directives statements) :
    Span.InOrder source outer (directives ++ statements) := by
  obtain ⟨runner, text, gap, rfl, -, hlaid, -, -⟩ := h
  obtain ⟨before, after, hsource, rfl⟩ := Span.names_iff.1 houter
  rw [← Text.size_append] at hlaid
  refine (hlaid.inOrder (gap ++ after) (by simp [hsource])).widen ?_ ?_
  · simp
  · simp [Nat.add_assoc]

/-- Spans that account for a script on its own account for it wherever it stands. -/
lemma Accounted.shift (houter : outer.Names source code)
    (h : Accounted code code 0 directives statements) :
    Accounted source code outer.start (directives.map (Span.shift outer.start))
      (statements.map (Span.shift outer.start)) := by
  have hcode : Span.Names code ⟨0, code.size⟩ code := Span.names_iff.2 ⟨[], [], by simp, by simp⟩
  have horder := Accounted.inOrder hcode h
  obtain ⟨runner, text, gap, hsplit, hline, hlaid, hgap, hdirectives⟩ := h
  refine ⟨runner, text, gap, hsplit, hline, ?_, hgap, fun d hd => ?_⟩
  · have := hlaid.shift outer.start
    rwa [Nat.zero_add, List.map_append] at this
  · obtain ⟨inner, hinner, rfl⟩ := List.mem_map.1 hd
    rw [(houter.shift (horder.names inner (List.mem_append_left _ hinner))).slice_eq]
    exact hdirectives inner hinner

end Script

/-- The statements of a script account for it, also if it is blank and not read at all. -/
lemma Readers.exists_accounted_own {code : Text} {statements : List Script.Statement}
    (h : Readers.own.statements code = .ok statements) :
    ∃ directives, Script.Accounted code code 0 directives
      (statements.map Script.Statement.span) := by
  unfold Readers.statements at h
  split_ifs at h with hblank
  · obtain rfl := Except.ok.inj h
    exact ⟨[], [], [], code, rfl, .inl rfl, .nil, Script.trivia_of_blank hblank [], by simp⟩
  · cases hread : Script.statements? code with
    | none => simp [Readers.own, hread] at h
    | some read =>
      obtain rfl : read = statements := by simpa [Readers.own, hread] using h
      exact Script.accounted_of_statements? hread

/-! ### Documents -/

open Markup

/-- **The statements of every script are in order, and account for all of it** except for its
directives: what lies outside of them is blanks and comments, a first line that names the program
to run the script, and strings that stand as statements before the first one.

**Proof sketch.** The content of a script is a stretch of the source (`Node.Stands.contentSpan`),
and the statements account for it on its own (`Readers.exists_accounted_own`). -/
theorem statements_account_for_script {source : Text} {document : Document} {block : ScriptBlock}
    {statements : List Script.Statement} (hparse : parse source = .ok document)
    (hwithin : Node.Within (.element block.element.tag block.element.children block.element.span)
      document.nodes)
    (h : block.statements source = .ok statements) :
    block.element.contentSpan? = none ∧ statements = [] ∨
      ∃ content directives, block.element.contentSpan? = some content ∧
        Span.InOrder source content (statements.map Script.Statement.span) ∧
        Script.Accounted source (content.slice source) content.start directives
          (statements.map Script.Statement.span) := by
  have hstands := hwithin.stands (siblings_of_parse hparse).stand
  unfold ScriptBlock.statements at h
  split at h
  · rename_i hcontent
    exact .inl ⟨hcontent, (Except.ok.inj h).symm⟩
  · rename_i content hcontent
    split at h
    · simp at h
    · rename_i read hread
      obtain rfl := Except.ok.inj h
      have hnames := (hstands.contentSpan hcontent).1
      obtain ⟨directives, haccounted⟩ := Readers.exists_accounted_own hread
      have hshifted := haccounted.shift hnames
      have hspans : (read.map (Script.Statement.shift content.start)).map Script.Statement.span =
          (read.map Script.Statement.span).map (Span.shift content.start) := by
        simp [Function.comp_def, Script.Statement.shift]
      rw [← hspans] at hshifted
      exact .inr ⟨content, _, hcontent, (hshifted.inOrder hnames).sublist
        (List.sublist_append_right _ _), hshifted⟩

/-! ### Scripts with a directive -/

/-- A component with a script that consists of a text. -/
def componentOf (code : Text) : Text := "<script>".toList ++ code ++ "</script>".toList

/-- The script of such a component. -/
def scriptOf (code : Text) : ScriptBlock :=
  ⟨⟨⟨"script".toList, [], false⟩, [.text code ⟨8, 8 + code.size⟩], ⟨0, 17 + code.size⟩⟩, false⟩

/-- The document of such a component. -/
def documentOf (code : Text) : Document :=
  let element := (scriptOf code).element
  ⟨[.element element.tag element.children element.span], element.span⟩

/-- A script with a line that names a program, a directive, comments and statements. -/
def annotated : Text := "#!n\n'x';/*c*/let a = 1//d\nf()".toList

/-- The statements of such a script account for it. -/
theorem statements_account_for_annotated_script :
    parse (componentOf annotated) = .ok (documentOf annotated) ∧
      (scriptOf annotated).statements (componentOf annotated) =
        .ok [⟨false, ⟨21, 30⟩⟩, ⟨false, ⟨34, 37⟩⟩] ∧
      ∃ content directives, (scriptOf annotated).element.contentSpan? = some content ∧
        Span.InOrder (componentOf annotated) content [⟨21, 30⟩, ⟨34, 37⟩] ∧
        Script.Accounted (componentOf annotated) (content.slice (componentOf annotated))
          content.start directives [⟨21, 30⟩, ⟨34, 37⟩] := by
  have hparse : parse (componentOf annotated) = .ok (documentOf annotated) := by decide +kernel
  have hread : (scriptOf annotated).statements (componentOf annotated) =
      .ok [⟨false, ⟨21, 30⟩⟩, ⟨false, ⟨34, 37⟩⟩] := by decide +kernel
  rcases statements_account_for_script hparse (.among (List.mem_singleton.2 rfl)) hread with
    ⟨-, hnone⟩ | haccounted
  · simp at hnone
  · exact ⟨hparse, hread, haccounted⟩

/-- A script with a directive. -/
def strict : Text := "\"use strict\";let a = 1;".toList

/-- The statement of such a script does not account for it without the directive. -/
theorem not_accounted_without_directive :
    parse (componentOf strict) = .ok (documentOf strict) ∧
      (scriptOf strict).statements (componentOf strict) = .ok [⟨false, ⟨21, 31⟩⟩] ∧
      (scriptOf strict).element.contentSpan? = some ⟨8, 31⟩ ∧
      (Span.mk 8 31).slice (componentOf strict) = strict ∧
      ¬ Script.Accounted (componentOf strict) strict 8 [] [⟨21, 31⟩] := by
  refine ⟨by decide +kernel, by decide +kernel, by decide +kernel, by decide +kernel, ?_⟩
  rintro ⟨runner, text, gap, hcode, hline, hlaid, -, -⟩
  have hquote : strict.head? = some '"' := by decide +kernel
  -- What the code starts with is not the mark of a first line that names a program.
  obtain rfl : runner = [] := by
    rcases hline with rfl | ⟨body, rfl, -⟩
    · rfl
    · simp [hcode] at hquote
  obtain ⟨between, piece, rest, rfl, hbetween, -, hstart⟩ := hlaid.exists_gap rfl
  cases between with
  | nil => simp at hstart
  | cons c s =>
    -- So blanks and comments come first, and they do not start with a quote.
    obtain rfl : c = '"' := by simpa [hcode] using hquote
    exact absurd hbetween.starts (by decide)

end OneFile
