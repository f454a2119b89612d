import Mathlib.Data.List.TakeWhile
import OneFile.Proofs.Markup.Lossless

/-!
# Markup errors point at what is wrong

A source that cannot be read is rejected at the one place where reading it got stuck. The error
says where: at the start of the construct that is at fault, which may lie far before that place.
This module says for each cause what stands at the offset of its error.

## Main definitions

* `OneFile.Markup.TagUnderway` — a stretch of a source that is an opening tag without its end.
* `OneFile.Markup.ClosesAt` — a close tag, up to what follows its name.
* `OneFile.Markup.OpenElement`, `OneFile.Markup.OpenRaw` — an element without its close tag.
* `OneFile.Markup.Error.Points` — what stands at the offset of an error, by its cause.
* `OneFile.Markup.Fault.mark?` — the character that a construct at fault starts with.

## Main results

* `OneFile.Markup.Tag.points_of_readAttributes`, `OneFile.Markup.State.Faithful.points_of_step` —
  the errors within an opening tag, and those of one step.
* `OneFile.Markup.points_of_parse` — the error of a source points at what is wrong.
* `OneFile.Markup.Error.Points.starts` — there is a character at the offset, and the right one.

## Design

An error within an opening tag is raised after some of its attributes have been read. So what is
carried along is the account of the tag so far, which is that of a finished tag
(`AttributesStand`) with nothing for its closing mark.
-/

namespace OneFile.Markup

variable {source : Text}

/-! ### What can be under way -/

/-- **An opening tag is under way** between two bytes: a bracket, the name, and some attributes with
blanks before and after them. -/
def TagUnderway (source tag : Text) (start stop : Nat) : Prop :=
  ∃ nameStop attributes, Span.Names source ⟨start, nameStop⟩ ('<' :: tag) ∧
    AttributesStand source [] attributes nameStop stop

/-- Attributes are followed by blanks. -/
lemma AttributesStand.extend {as : List Attribute} {start mid stop : Nat} {gap : Text}
    (h : AttributesStand source [] as start mid) (hgap : gap.all Text.isSpace)
    (hnames : Span.Names source ⟨mid, stop⟩ gap) : AttributesStand source [] as start stop := by
  induction h with
  | @close _ _ before hbefore hmid =>
    rw [List.append_nil] at hmid
    have hblank : (before ++ gap).all Text.isSpace := by
      rw [List.all_append, hbefore, hgap]
      rfl
    refine .close hblank ?_
    rw [List.append_nil]
    exact hmid.append hnames
  | cons hbefore hmid ha _ ih => exact .cons hbefore hmid ha (ih hnames)

/-- Attributes are followed by one more. -/
lemma AttributesStand.concat {as : List Attribute} {a : Attribute} {start : Nat}
    (h : AttributesStand source [] as start a.span.start) (ha : a.Stands source)
    (hend : source.IsBoundary a.span.stop) :
    AttributesStand source [] (as ++ [a]) start a.span.stop := by
  generalize hmid : a.span.start = mid at h
  induction h with
  | close hgap hnames =>
    subst hmid
    rw [List.append_nil] at hnames
    obtain ⟨before, after, rfl, hsize⟩ := hend
    have hempty : Span.Names (before ++ after) ⟨a.span.stop, a.span.stop⟩ ([] ++ []) :=
      Span.names_iff.2 ⟨before, after, by simp, by simp [hsize]⟩
    exact .cons hgap hnames ha (.close List.all_nil hempty)
  | cons hgap hnames hfirst _ ih => exact .cons hgap hnames hfirst (ih hmid)

/-- **A close tag begins** at a place: its start and its whole name, and then `s`. -/
def ClosesAt (c : Cursor) (name s : Text) : Prop :=
  c.rest = "</".toList ++ name ++ s ∧ (∀ d ∈ name, isNameChar d = true) ∧
    ∀ d ∈ s.head?, isNameChar d = false

/-- The bracket of a close tag comes next, after some blanks. -/
def BracketFollows (s : Text) : Prop := (s.dropWhile Text.isSpace).head? = some '>'

/-- **An element is open** between two bytes: its opening tag, which leaves it open, and whole
nodes after it. -/
def OpenElement (source name : Text) (start stop : Nat) : Prop :=
  ∃ tag opened nodes, tag.name = name ∧ Tag.Stands source tag start opened ∧
    tag.selfClosing = false ∧ Siblings source opened nodes stop

/-- **A raw element is open** between two bytes: its opening tag, and a body that does not hold the
start of the close tag. -/
def OpenRaw (source name : Text) (start stop : Nat) : Prop :=
  ∃ tag opened body, tag.name = name ∧ Tag.Stands source tag start opened ∧
    tag.selfClosing = false ∧ isRaw name = true ∧ Span.Names source ⟨opened, stop⟩ body ∧
    ¬ ("</".toList ++ name) <:+: body

/-! ### What is at fault -/

/-- The characters that no attribute can start with, blanks and what ends a tag apart. -/
def noNames : List Char := ['=', '"', '\'', '\x7b', '<']

/-- **What stands at the offset of an error**, by its cause, is the start of the construct that is
at fault. -/
inductive Error.Points (source : Text) : Error → Prop
  /-- An element that is still open where the source ends. -/
  | unclosed {name : Text} {start : Nat}
      (hopen : OpenElement source name start source.size ∨ OpenRaw source name start source.size) :
      Points source ⟨start, .unclosedElement name⟩
  /-- A close tag without its bracket. -/
  | malformed {c : Cursor} {name s : Text} (hc : c.In source) (hclose : ClosesAt c name s)
      (hend : ¬ BracketFollows s) : Points source ⟨c.offset, .malformedClosingTag name⟩
  /-- The close tag of a raw element without its bracket. -/
  | malformedRaw {c : Cursor} {name s : Text} {start : Nat} (hc : c.In source)
      (hopen : OpenRaw source name start c.offset) (hrest : c.rest = "</".toList ++ name ++ s)
      (hend : ¬ BracketFollows s) : Points source ⟨c.offset, .malformedClosingTag name⟩
  /-- A close tag of another element than the innermost open one. -/
  | mismatched {c : Cursor} {expected found s : Text} {start : Nat} (hc : c.In source)
      (hclose : ClosesAt c found s) (hend : BracketFollows s)
      (hopen : OpenElement source expected start c.offset) (hne : expected ≠ found) :
      Points source ⟨c.offset, .mismatchedClosingTag expected found⟩
  /-- A close tag where no element is open. -/
  | unexpected {c : Cursor} {name s : Text} {nodes : List Node} (hc : c.In source)
      (hclose : ClosesAt c name s) (hend : BracketFollows s)
      (hbefore : Siblings source 0 nodes c.offset) :
      Points source ⟨c.offset, .unexpectedClosingTag name⟩
  /-- A comment without its closing mark. -/
  | comment {c : Cursor} {body : Text} (hc : c.In source) (hrest : c.rest = "<!--".toList ++ body)
      (hnone : ¬ "-->".toList <:+: body) : Points source ⟨c.offset, .unterminatedComment⟩
  /-- A declaration without its closing bracket. -/
  | declaration {c : Cursor} {body : Text} (hc : c.In source) (hrest : c.rest = "<!".toList ++ body)
      (hother : ¬ "--".toList <+: body) (hnone : '>' ∉ body) :
      Points source ⟨c.offset, .unterminatedComment⟩
  /-- A brace that no brace balances. -/
  | expression {c : Cursor} {s : Text} (hc : c.In source) (hrest : c.rest = '{' :: s)
      (hnone : Brace.inside? c.rest = none) : Points source ⟨c.offset, .unterminatedExpression⟩
  /-- An opening tag that goes on up to the end of the source. -/
  | tag {name : Text} {start : Nat} (htag : TagUnderway source name start source.size) :
      Points source ⟨start, .unterminatedTag name⟩
  /-- A character in an opening tag that no attribute can start with. -/
  | character {c : Cursor} {name s : Text} {d : Char} {start : Nat} (hc : c.In source)
      (htag : TagUnderway source name start c.offset) (hrest : c.rest = d :: s)
      (hd : d ∈ noNames) : Points source ⟨c.offset, .unexpectedCharacter name⟩
  /-- An attribute in an opening tag with a quoted value that is not closed. -/
  | value {c : Cursor} {element name before after s : Text} {quote : Char} {start : Nat}
      (hc : c.In source) (htag : TagUnderway source element start c.offset) (hname : name ≠ [])
      (hbefore : before.all Text.isSpace) (hafter : after.all Text.isSpace)
      (hquote : quote = '"' ∨ quote = '\'')
      (hrest : c.rest = name ++ before ++ '=' :: after ++ quote :: s) (hnone : quote ∉ s) :
      Points source ⟨c.offset, .unterminatedValue name⟩
  /-- An attribute in an opening tag with an equals sign and nothing after it. -/
  | noValue {c : Cursor} {element name before after : Text} {start : Nat}
      (hc : c.In source) (htag : TagUnderway source element start c.offset) (hname : name ≠ [])
      (hbefore : before.all Text.isSpace) (hafter : after.all Text.isSpace)
      (hrest : c.rest = name ++ before ++ '=' :: after) :
      Points source ⟨c.offset, .missingValue name⟩

/-! ### Errors within an opening tag -/

/-- The name of an attribute is empty only where no attribute can start. -/
lemma mem_noNames_of_attributeName {d : Char} {s : Text}
    (hspace : Text.isSpace d = false) (hgt : d ≠ '>') (hslash : d = '/' → s.head? ≠ some '>')
    (h : (attributeName (d :: s)).1 = []) : d ∈ noNames := by
  rw [attributeName] at h
  split_ifs at h with hends
  · simp only [endsName, hspace, Bool.false_or, Bool.or_eq_true, List.contains_iff_mem,
      Bool.and_eq_true, beq_iff_eq] at hends
    rcases hends with hends | ⟨rfl, hnext⟩
    · simpa [noNames, hgt] using hends
    · exact absurd hnext (hslash rfl)

/-- **The errors of a value**: there is nothing to read, a quote is not closed, or a brace is not
balanced. -/
lemma AttributeValue.read_eq_error {name : Text} {start : Nat} {c : Cursor} {e : Error}
    (h : AttributeValue.read name start c = .error e) :
    (c.rest = [] ∧ e = ⟨start, .missingValue name⟩) ∨
    (∃ quote s, (quote = '"' ∨ quote = '\'') ∧ c.rest = quote :: s ∧ quote ∉ s ∧
      e = ⟨start, .unterminatedValue name⟩) ∨
    ∃ s, c.rest = '{' :: s ∧ Brace.inside? c.rest = none ∧
      e = ⟨c.offset, .unterminatedExpression⟩ := by
  unfold AttributeValue.read at h
  split at h
  · rename_i hs
    cases h
    exact .inl ⟨hs, rfl⟩
  · rename_i d s hs
    split_ifs at h with hquote hbrace
    · split at h
      · rename_i hnone
        cases h
        have hfree := Text.not_infix_of_breakOn_eq_none hnone
        rw [List.singleton_infix_iff] at hfree
        exact .inr (.inl ⟨d, s, hquote, hs, hfree, rfl⟩)
      · cases h
    · subst hbrace
      split at h
      · rename_i hnone
        cases h
        exact .inr (.inr ⟨s, hs, hs ▸ hnone, rfl⟩)
      · cases h

/-- **The error of an attribute points at what is wrong.** -/
lemma Attribute.points_of_read {tag : Text} {start : Nat} {c : Cursor} {e : Error}
    (hc : c.In source) (htag : TagUnderway source tag start c.offset)
    (hstart : ∃ d s, c.rest = d :: s ∧ Text.isSpace d = false ∧ d ≠ '>' ∧
      (d = '/' → s.head? ≠ some '>'))
    (h : Attribute.read tag c = .error e) : e.Points source := by
  have hname : c.Reads (attributeName c.rest).1
      (c.advance (attributeName c.rest).1 (attributeName c.rest).2) :=
    Cursor.reads_advance (attributeName_append c.rest).symm
  simp only [Attribute.read] at h
  split_ifs at h with hempty
  · obtain ⟨d, s, hs, hspace, hgt, hslash⟩ := hstart
    rw [hs, List.isEmpty_iff] at hempty
    cases h
    exact .character hc htag hs (mem_noNames_of_attributeName hspace hgt hslash hempty)
  · rw [List.isEmpty_iff] at hempty
    generalize c.advance (attributeName c.rest).1 (attributeName c.rest).2 = c₁ at h hname
    generalize (attributeName c.rest).1 = name at h hname hempty
    split at h
    · rename_i s hs
      obtain ⟨before, hbefore, hskip⟩ := c₁.exists_reads_skipSpaces
      obtain ⟨after, hafter, hskip'⟩ :=
        Cursor.exists_reads_skipSpaces ⟨s, c₁.skipSpaces.offset + 1⟩
      have hequals : c₁.skipSpaces.Reads ['='] ⟨s, c₁.skipSpaces.offset + 1⟩ := ⟨hs, rfl⟩
      have hread := (hname.trans hskip).trans (hequals.trans hskip')
      split at h
      · rename_i e' he
        cases h
        rcases AttributeValue.read_eq_error he with ⟨hrest, rfl⟩ |
          ⟨quote, t, hquote, hrest, hfree, rfl⟩ | ⟨t, hrest, hnone, rfl⟩
        · refine .noValue hc htag hempty hbefore hafter ?_
          rw [hread.rest_eq, hrest]
          simp
        · refine .value hc htag hempty hbefore hafter hquote ?_ hfree
          rw [hread.rest_eq, hrest]
          simp
        · exact .expression (hc.of_reads hread) hrest hnone
      · cases h
    · cases h

/-- **The errors within an opening tag point at what is wrong.**

**Proof sketch.** Induction along the reading of attributes. The blanks before an attribute and
the attribute itself are added to the account of the tag so far. -/
lemma Tag.points_of_readAttributes {tag : Text} {start : Nat} {read : List Attribute} {c : Cursor}
    {e : Error} (hc : c.In source) (htag : TagUnderway source tag start c.offset)
    (h : Tag.readAttributes tag start read c = .error e) : e.Points source := by
  obtain ⟨nameStop, attributes, hname, hattributes⟩ := htag
  fun_induction Tag.readAttributes tag start read c generalizing attributes with
  | case1 read c c₁ hs =>
    obtain ⟨gap, hgap, hskip⟩ := c.exists_reads_skipSpaces
    have hc₁ : c₁.In source := hc.of_reads hskip
    have hend : c₁.offset = source.size := hc₁.offset_eq_size hs
    cases h
    exact .tag ⟨nameStop, attributes, hname, hend ▸ hattributes.extend hgap (hskip.names hc)⟩
  | case2 => cases h
  | case3 => cases h
  | case4 read c c₁ e' herror hne hopen hclosed =>
    obtain ⟨gap, hgap, hskip⟩ := c.exists_reads_skipSpaces
    have hunderway := hattributes.extend hgap (hskip.names hc)
    cases h
    refine Attribute.points_of_read (hc.of_reads hskip) ⟨nameStop, attributes, hname, hunderway⟩
      ?_ herror
    obtain ⟨d, s, hs⟩ := List.exists_cons_of_ne_nil hne
    refine ⟨d, s, hs, ?_, ?_, ?_⟩
    · have hhead : d ∈ (c.rest.dropWhile Text.isSpace).head? := congrArg List.head? hs
      exact Text.eq_false_of_mem_head?_dropWhile hhead
    · rintro rfl
      exact hopen s hs
    · rintro rfl hnext
      obtain ⟨t, rfl⟩ := List.head?_eq_some_iff.1 hnext
      exact hclosed t hs
  | case5 read c c₁ a c₂ hread _ _ _ ih =>
    obtain ⟨gap, hgap, hskip⟩ := c.exists_reads_skipSpaces
    obtain ⟨hne, hspan, written, hspell, hreads⟩ := Attribute.read_reads hread
    have hc₁ : c₁.In source := hc.of_reads hskip
    have hunderway := hattributes.extend hgap (hskip.names hc)
    have hnames : a.span.Names source written := hspan ▸ hreads.names hc₁
    have hstop : a.span.stop = c₂.offset := by rw [hspan]
    have hstart : a.span.start = c₁.offset := by rw [hspan]
    have hconcat := (hstart ▸ hunderway).concat ⟨hne, written, hspell, hnames⟩
      hnames.isBoundary_stop
    exact ih (hc₁.of_reads hreads) h _ (hstop ▸ hconcat)

/-! ### Errors of one step -/

namespace State

variable {st st' : State} {e : Error}

/-- The name of a close tag ends where it is read to. -/
lemma closesAt_of_rest {c : Cursor} {s : Text} (hs : c.rest = '<' :: '/' :: s) :
    ClosesAt c (s.takeWhile isNameChar) (s.dropWhile isNameChar) := by
  refine ⟨?_, fun d hd => List.mem_takeWhile_imp hd, fun d hd => ?_⟩
  · rw [hs, List.append_assoc, List.takeWhile_append_dropWhile]
    rfl
  · exact Text.eq_false_of_mem_head?_dropWhile hd

/-- **The errors of a close tag point at what is wrong.** -/
lemma Faithful.points_of_closeElement {s : Text} (h : st.Faithful source)
    (hs : st.cursor.rest = '<' :: '/' :: s) (hst : st.closeElement s = .error e) :
    e.Points source := by
  have hclose := closesAt_of_rest hs
  obtain ⟨hin, ⟨base, hframes, hsiblings⟩, -⟩ := h
  simp only [State.closeElement] at hst
  split at hst
  · rename_i after hafter
    have hend : BracketFollows (s.dropWhile isNameChar) := congrArg List.head? hafter
    split at hst
    · rename_i hstack
      cases hst
      rw [hstack] at hframes
      obtain rfl : base = 0 := hframes
      exact .unexpected hin hclose hend hsiblings
    · rename_i frame stack hstack
      split_ifs at hst with hname
      cases hst
      rw [hstack] at hframes
      obtain ⟨htag, hopen, -⟩ := hframes
      exact .mismatched hin hclose hend ⟨frame.tag, base, _, rfl, htag, hopen, hsiblings⟩ hname
  · rename_i hother
    cases hst
    refine .malformed hin hclose fun hend => ?_
    obtain ⟨after, hafter⟩ := List.head?_eq_some_iff.1 hend
    exact hother after hafter

/-- **The errors of a raw body point at what is wrong.** -/
lemma points_of_readRaw {tag : Tag} {start : Nat} {c : Cursor} (hc : c.In source)
    (htag : tag.Stands source start c.offset) (hopen : tag.selfClosing = false)
    (hraw : isRaw tag.name = true) (h : readRaw tag.name start c = .error e) :
    e.Points source := by
  simp only [readRaw] at h
  split at h
  · rename_i hnone
    cases h
    have hrest : c.Reads c.rest ⟨[], source.size⟩ :=
      ⟨(List.append_nil _).symm, hc.offset_add_size.symm⟩
    exact .unclosed (.inr ⟨tag, c.offset, c.rest, rfl, htag, hopen, hraw, hrest.names hc,
      Text.not_infix_of_breakOn_eq_none hnone⟩)
  · rename_i body after hfound
    split at h
    · cases h
    · rename_i hother
      cases h
      have hbody : c.Reads body ⟨"</".toList ++ tag.name ++ after, c.offset + body.size⟩ :=
        ⟨by rw [Text.breakOn_eq_some hfound]; simp, rfl⟩
      refine .malformedRaw (hc.of_reads hbody) ⟨tag, c.offset, body, rfl, htag, hopen, hraw,
        hbody.names hc, Text.not_infix_of_breakOn (by simp) hfound⟩ rfl fun hend => ?_
      obtain ⟨rest, hrest⟩ := List.head?_eq_some_iff.1 hend
      exact hother rest hrest

/-- **The errors of an opening tag point at what is wrong**, and so do those of a raw body. -/
lemma Faithful.points_of_openElement {s : Text} (h : st.Faithful source)
    (hs : st.cursor.rest = '<' :: s) (hst : st.openElement s = .error e) : e.Points source := by
  have hname : st.cursor.Reads ('<' :: s.takeWhile isNameChar) ⟨s.dropWhile isNameChar,
      st.cursor.offset + 1 + Text.size (s.takeWhile isNameChar)⟩ :=
    ⟨by rw [hs, List.cons_append, List.takeWhile_append_dropWhile],
      by rw [Text.size_cons, Nat.add_assoc]; rfl⟩
  have hin := h.cursor_in.of_reads hname
  simp only [State.openElement] at hst
  split at hst
  · rename_i e' herror
    cases hst
    have hempty : Span.Names source ⟨_, _⟩ ([] ++ []) := (Cursor.Reads.refl _).names hin
    exact Tag.points_of_readAttributes hin
      ⟨_, [], hname.names h.cursor_in, .close List.all_nil hempty⟩ herror
  · rename_i attributes closed c hattributes
    obtain ⟨new, piece, hnew, hpiece, hstand⟩ := Tag.readAttributes_stand hin hattributes
    obtain rfl : attributes = new := by simpa using hnew
    have htag : Tag.Stands source ⟨s.takeWhile isNameChar, attributes,
        closed || isVoid (s.takeWhile isNameChar)⟩ st.cursor.offset c.offset :=
      ⟨_, closed, hname.names h.cursor_in, hstand, rfl⟩
    split_ifs at hst with hclosed hraw
    rw [Bool.eq_false_iff.2 hclosed] at htag
    split at hst
    · rename_i e' herror
      cases hst
      exact points_of_readRaw (hin.of_reads hpiece) htag rfl hraw herror
    · cases hst

/-- **The error of a comment points at what is wrong**, if one without its closing mark is. -/
lemma Faithful.points_of_readComment {opening closing body : Text}
    (hpoints : ¬ closing <:+: body →
      Error.Points source ⟨st.cursor.offset, .unterminatedComment⟩)
    (hst : st.readComment opening closing body = .error e) : e.Points source := by
  simp only [State.readComment] at hst
  split at hst
  · rename_i hnone
    cases hst
    exact hpoints (Text.not_infix_of_breakOn_eq_none hnone)
  · cases hst

/-- **The error of one step points at what is wrong.** -/
theorem Faithful.points_of_step (h : st.Faithful source) (hst : st.step = .error e) :
    e.Points source := by
  unfold State.step at hst
  split at hst
  · cases hst
  · rename_i s hs
    exact h.points_of_closeElement hs hst
  · rename_i s hs
    exact Faithful.points_of_readComment (.comment h.cursor_in hs) hst
  · rename_i s hother hs
    refine Faithful.points_of_readComment (fun hnone => ?_) hst
    refine .declaration h.cursor_in hs ?_ fun hmem => hnone ((List.singleton_infix_iff _ _).2 hmem)
    rintro ⟨t, rfl⟩
    exact hother t rfl
  · rename_i s hs
    simp only [State.readExpression] at hst
    split at hst
    · rename_i hnone
      cases hst
      exact .expression h.cursor_in hs hnone
    · cases hst
  · rename_i d s _ _ _ hbrace hs
    split_ifs at hst with hmarkup
    obtain rfl := eq_lt_of_startsMarkup hmarkup
    exact h.points_of_openElement hs hst

/-- The error of a run points at what is wrong, from any faithful state on.

**Proof sketch.** Induction along the run. It ends with an error of its last step, or at the end
of the source with an element that is open. -/
lemma Faithful.points_of_run (h : st.Faithful source) (hrun : st.run = .error e) :
    e.Points source := by
  fun_induction State.run st with
  | case1 => cases hrun
  | case2 st hrest frame stack hstack =>
    cases hrun
    obtain ⟨hin, ⟨base, hframes, hsiblings⟩, -⟩ := h
    rw [hstack] at hframes
    obtain ⟨htag, hopen, -⟩ := hframes
    rw [hin.offset_eq_size hrest] at hsiblings
    exact .unclosed (.inl ⟨frame.tag, base, _, rfl, htag, hopen, hsiblings⟩)
  | case3 st hrest e' herror =>
    cases hrun
    exact h.points_of_step herror
  | case4 st hrest st₁ hstep ih => exact ih (h.step hstep) hrun

end State

/-- **The error of a source points at what is wrong.** -/
theorem points_of_parse {e : Error} (h : parse source = .error e) : e.Points source := by
  unfold parse at h
  split at h
  · rename_i e' hrun
    cases h
    exact (State.faithful_start source).points_of_run hrun
  · cases h

/-! ### The character at the offset -/

/-- **The character that a construct at fault starts with**, if its cause settles that: a bracket
for elements, close tags and comments, and a brace for expressions. -/
def Fault.mark? : Fault → Option Char
  | .unclosedElement _ | .malformedClosingTag _ | .mismatchedClosingTag .. | .unexpectedClosingTag _
  | .unterminatedComment | .unterminatedTag _ => some '<'
  | .unterminatedExpression => some '{'
  | .unexpectedCharacter _ | .unterminatedValue _ | .missingValue _ => none

/-- A text has a character at some offset. -/
def CharAt (source : Text) (offset : Nat) (d : Char) : Prop :=
  ∃ before after, source = before ++ d :: after ∧ before.size = offset

/-- The character at a cursor is the first one that it has before it. -/
lemma charAt_of_rest {c : Cursor} {d : Char} {s : Text} (hc : c.In source) (hs : c.rest = d :: s) :
    CharAt source c.offset d := by
  obtain ⟨before, hbefore, hsize⟩ := hc
  exact ⟨before, s, hs ▸ hbefore, hsize⟩

/-- The character at a span is the first one that it names. -/
lemma charAt_of_names {d : Char} {s : Text} {span : Span} (h : span.Names source (d :: s)) :
    CharAt source span.start d := by
  obtain ⟨before, after, rfl, rfl⟩ := Span.names_iff.1 h
  exact ⟨before, s ++ after, by simp, rfl⟩

/-- A character lies within its text. -/
lemma CharAt.offset_lt {offset : Nat} {d : Char} (h : CharAt source offset d) :
    offset < source.size := by
  obtain ⟨before, after, rfl, rfl⟩ := h
  have hpos := d.utf8Size_pos
  rw [Text.size_append, Text.size_cons]
  omega

/-- A character starts at a boundary. -/
lemma CharAt.isBoundary {offset : Nat} {d : Char} (h : CharAt source offset d) :
    source.IsBoundary offset := by
  obtain ⟨before, after, hsource, hsize⟩ := h
  exact ⟨before, d :: after, hsource, hsize⟩

/-- **There is a character at the offset of an error**, and it is the one that its cause settles. -/
lemma Error.Points.starts {e : Error} (h : e.Points source) :
    ∃ d, CharAt source e.offset d ∧ ∀ mark ∈ e.fault.mark?, d = mark := by
  cases h with
  | unclosed hopen =>
    obtain ⟨tag, opened, nodes, rfl, ⟨nameStop, closed, hname, -⟩, -⟩ |
      ⟨tag, opened, body, rfl, ⟨nameStop, closed, hname, -⟩, -⟩ := hopen
    · exact ⟨'<', charAt_of_names hname, by simp [Fault.mark?]⟩
    · exact ⟨'<', charAt_of_names hname, by simp [Fault.mark?]⟩
  | malformed hc hclose => exact ⟨'<', charAt_of_rest hc hclose.1, by simp [Fault.mark?]⟩
  | malformedRaw hc _ hrest => exact ⟨'<', charAt_of_rest hc hrest, by simp [Fault.mark?]⟩
  | mismatched hc hclose => exact ⟨'<', charAt_of_rest hc hclose.1, by simp [Fault.mark?]⟩
  | unexpected hc hclose => exact ⟨'<', charAt_of_rest hc hclose.1, by simp [Fault.mark?]⟩
  | comment hc hrest => exact ⟨'<', charAt_of_rest hc hrest, by simp [Fault.mark?]⟩
  | declaration hc hrest => exact ⟨'<', charAt_of_rest hc hrest, by simp [Fault.mark?]⟩
  | expression hc hrest => exact ⟨'{', charAt_of_rest hc hrest, by simp [Fault.mark?]⟩
  | tag htag =>
    obtain ⟨nameStop, attributes, hname, -⟩ := htag
    exact ⟨'<', charAt_of_names hname, by simp [Fault.mark?]⟩
  | @character _ _ _ d _ hc _ hrest => exact ⟨d, charAt_of_rest hc hrest, by simp [Fault.mark?]⟩
  | @value _ _ name _ _ _ _ _ hc _ hname _ _ _ hrest =>
    obtain ⟨d, t, rfl⟩ := List.exists_cons_of_ne_nil hname
    exact ⟨d, charAt_of_rest hc hrest, by simp [Fault.mark?]⟩
  | @noValue _ _ name _ _ _ hc _ hname _ _ hrest =>
    obtain ⟨d, t, rfl⟩ := List.exists_cons_of_ne_nil hname
    exact ⟨d, charAt_of_rest hc hrest, by simp [Fault.mark?]⟩

end OneFile.Markup
