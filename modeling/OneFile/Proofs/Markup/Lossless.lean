import OneFile.Proofs.Markup.Spelling
import OneFile.Proofs.Text.Search

/-!
# Reading markup loses nothing

Every byte of a source that is read without an error is accounted for by the tree that is
returned.

## Main definitions

* `OneFile.Markup.State.Faithful` — what holds of a parse at every step: the nodes read so far and
  the open elements account for all that has been read.

## Main results

* `OneFile.Markup.flatMap_render_valueParts` — splitting a quoted value loses nothing.
* `OneFile.Markup.Attribute.read_reads` — what is read for an attribute is a spelling of it.
* `OneFile.Markup.State.Faithful.step` — one step of a parse keeps the account.
* `OneFile.Markup.parse_accounts_for_source` — the tree accounts for every byte of the source.

## Design

Readers are specified by what lies between the cursor before and the cursor after them
(`OneFile.Cursor.Reads`), without the source around it. Only the nodes, which carry offsets, are
related to the whole source.
-/

namespace OneFile.Markup

/-! ### Values -/

/-- A literal stretch renders as itself. -/
@[simp] lemma flatMap_render_literalPart (t : Text) :
    (literalPart t).flatMap ValuePart.render = t := by
  unfold literalPart
  split
  · rename_i h
    simp [List.isEmpty_iff.1 h]
  · simp [ValuePart.render]

/-- The stretches of a value from one of them on render as that value.

**Proof sketch.** Induction along the splitting. What precedes the first brace is kept as it is,
and `Brace.inside?_eq_some` puts the expression that was cut out back into its braces. -/
lemma flatMap_render_valuePartsFrom (value : Text) :
    (valuePartsFrom value).flatMap ValuePart.render = value := by
  fun_induction valuePartsFrom value with
  | case1 value hinside => simp
  | case2 value source after hinside ih =>
    simp only [List.flatMap_append, List.flatMap_cons, flatMap_render_literalPart, ih,
      ValuePart.render]
    cases hdrop : value.dropWhile (· != '{') with
    | nil => simp [hdrop, Brace.inside?, Brace.balanced?, Brace.afterClosing?] at hinside
    | cons c s =>
      obtain rfl : c = '{' := by
        have hhead : c ∈ (value.dropWhile (· != '{')).head? := by rw [hdrop]; rfl
        simpa using Text.eq_false_of_mem_head?_dropWhile hhead
      rw [hdrop] at hinside
      rw [← Brace.inside?_eq_some hinside, ← hdrop, List.takeWhile_append_dropWhile]

/-- **Splitting a quoted value loses nothing**: its stretches render as the value. -/
lemma flatMap_render_valueParts (value : Text) :
    (valueParts value).flatMap ValuePart.render = value := by
  have h := flatMap_render_valuePartsFrom value
  unfold valueParts
  split
  · rename_i hnil
    rw [hnil] at h
    simpa [ValuePart.render] using h
  · exact h

/-- A bare value and what follows it make up the text. -/
lemma bareValue_append (s : Text) : (bareValue s).1 ++ (bareValue s).2 = s := by
  induction s with
  | nil => rfl
  | cons c s ih =>
    simp only [bareValue]
    split
    · rfl
    · simp [ih]

/-- A bare value holds no blanks and no closing brackets. -/
lemma bareValue_free (s : Text) : ∀ c ∈ (bareValue s).1, Text.isSpace c = false ∧ c ≠ '>' := by
  induction s with
  | nil => simp [bareValue]
  | cons d s ih =>
    simp only [bareValue]
    split
    · simp
    · rename_i hd
      simp only [Bool.or_eq_true, not_or, Bool.not_eq_true, beq_iff_eq] at hd
      intro c hc
      rcases List.mem_cons.1 hc with rfl | hc
      · exact ⟨hd.1.1, hd.1.2⟩
      · exact ih c hc

/-! ### Attributes -/

/-- What is read for a value is the value as it can be written. -/
lemma AttributeValue.read_reads {name : Text} {start : Nat} {c c' : Cursor} {v : AttributeValue}
    (h : AttributeValue.read name start c = .ok (v, c')) :
    ∃ written, v.Written written ∧ c.Reads written c' := by
  unfold AttributeValue.read at h
  split at h
  · simp at h
  · rename_i d s hs
    split_ifs at h with hquote hbrace
    · split at h
      · simp at h
      · rename_i value after hb
        simp only [Except.ok.injEq, Prod.mk.injEq] at h
        obtain ⟨rfl, rfl⟩ := h
        have hfree : d ∉ (valueParts value).flatMap ValuePart.render := by
          rw [flatMap_render_valueParts, ← List.singleton_infix_iff]
          exact Text.not_infix_of_breakOn (by simp) hb
        have hwritten := AttributeValue.Written.quoted hquote hfree
        rw [flatMap_render_valueParts] at hwritten
        exact ⟨_, hwritten, Cursor.reads_advance (by simp [hs, Text.breakOn_eq_some hb])⟩
    · subst hbrace
      split at h
      · simp at h
      · rename_i source after hb
        simp only [Except.ok.injEq, Prod.mk.injEq] at h
        obtain ⟨rfl, rfl⟩ := h
        exact ⟨_, .braced, by rw [hs, Brace.inside?_eq_some hb],
          by rw [Brace.size_braced, Nat.add_assoc]⟩
    · simp only [Except.ok.injEq, Prod.mk.injEq] at h
      obtain ⟨rfl, rfl⟩ := h
      exact ⟨_, .bare (bareValue_free _),
        Cursor.reads_advance (by rw [hs, bareValue_append])⟩

/-- **What is read for an attribute is a spelling of it**, and its span goes from the cursor
before to the cursor after. -/
lemma Attribute.read_reads {tag : Text} {c c' : Cursor} {a : Attribute}
    (h : Attribute.read tag c = .ok (a, c')) :
    a.name ≠ [] ∧ a.span = ⟨c.offset, c'.offset⟩ ∧
      ∃ written, a.Spelling written ∧ c.Reads written c' := by
  have hname : c.Reads (attributeName c.rest).1
      (c.advance (attributeName c.rest).1 (attributeName c.rest).2) :=
    Cursor.reads_advance (attributeName_append c.rest).symm
  simp only [Attribute.read] at h
  split_ifs at h with hempty
  generalize c.advance (attributeName c.rest).1 (attributeName c.rest).2 = c₁ at h hname
  split at h
  · rename_i s hs
    obtain ⟨before, hbefore, hskip⟩ := c₁.exists_reads_skipSpaces
    obtain ⟨after, hafter, hskip'⟩ :=
      Cursor.exists_reads_skipSpaces ⟨s, c₁.skipSpaces.offset + 1⟩
    split at h
    · simp at h
    · rename_i v c₂ hv
      simp only [Except.ok.injEq, Prod.mk.injEq] at h
      obtain ⟨rfl, rfl⟩ := h
      obtain ⟨written, hwritten, hread⟩ := AttributeValue.read_reads hv
      have hequals : c₁.skipSpaces.Reads ['='] ⟨s, c₁.skipSpaces.offset + 1⟩ := ⟨hs, rfl⟩
      refine ⟨by simpa using hempty, rfl, _, .valued hbefore hafter hwritten, ?_⟩
      simpa using (hname.trans hskip).trans ((hequals.trans hskip').trans hread)
  · simp only [Except.ok.injEq, Prod.mk.injEq] at h
    obtain ⟨rfl, rfl⟩ := h
    exact ⟨by simpa using hempty, rfl, _, .alone rfl, hname⟩

/-- What is read for the attributes of a tag, and the mark that closes it, stand in the source.

**Proof sketch.** Induction along the reading of attributes. At the closing mark the blanks before
it and the mark are named together; otherwise the blanks before the attribute and its spelling
are, and the rest follows by induction from the cursor after it. -/
lemma Tag.readAttributes_stand {source tag : Text} {start : Nat} {read as : List Attribute}
    {closed : Bool} {c c' : Cursor} (hc : c.In source)
    (h : Tag.readAttributes tag start read c = .ok (as, closed, c')) :
    ∃ new piece, as = read.reverse ++ new ∧ c.Reads piece c' ∧
      AttributesStand source (closingMark closed) new c.offset c'.offset := by
  fun_induction Tag.readAttributes tag start read c with
  | case1 => simp at h
  | case2 read c c₁ s hs =>
    obtain ⟨gap, hgap, hskip⟩ := c.exists_reads_skipSpaces
    simp only [Except.ok.injEq, Prod.mk.injEq] at h
    obtain ⟨rfl, rfl, rfl⟩ := h
    have hmark : c₁.Reads (closingMark false) ⟨s, c₁.offset + 1⟩ := ⟨hs, rfl⟩
    have hread := hskip.trans hmark
    exact ⟨[], _, by simp, hread, .close hgap (hread.names hc)⟩
  | case3 read c c₁ s hs =>
    obtain ⟨gap, hgap, hskip⟩ := c.exists_reads_skipSpaces
    simp only [Except.ok.injEq, Prod.mk.injEq] at h
    obtain ⟨rfl, rfl, rfl⟩ := h
    have hmark : c₁.Reads (closingMark true) ⟨s, c₁.offset + 2⟩ := ⟨hs, rfl⟩
    have hread := hskip.trans hmark
    exact ⟨[], _, by simp, hread, .close hgap (hread.names hc)⟩
  | case4 => simp at h
  | case5 read c c₁ a c₂ hread _ _ _ ih =>
    obtain ⟨gap, hgap, hskip⟩ := c.exists_reads_skipSpaces
    obtain ⟨hname, hspan, written, hspell, hreads⟩ := Attribute.read_reads hread
    have hc₁ : c₁.In source := hc.of_reads hskip
    obtain ⟨new, piece, rfl, hpiece, hstand⟩ := ih (hc₁.of_reads hreads) h
    refine ⟨a :: new, _, by simp, (hskip.trans hreads).trans hpiece,
      .cons hgap ?_ ⟨hname, written, hspell, ?_⟩ ?_⟩
    · rw [hspan]
      exact hskip.names hc
    · rw [hspan]
      exact hreads.names hc₁
    · rw [hspan]
      exact hstand

/-! ### One step of a parse -/

/-- **Faithful open elements**: those on the stack account for the source up to byte `base`, where
the innermost open list of nodes starts. -/
def FramesStand (source : Text) : List Frame → Nat → Prop
  | [], base => base = 0
  | frame :: frames, base =>
    frame.tag.Stands source frame.start base ∧ frame.tag.selfClosing = false ∧
      ∃ outer, Siblings source outer frame.before.reverse frame.start ∧
        FramesStand source frames outer

/-- Markup starts with a bracket. -/
lemma eq_lt_of_startsMarkup {c : Char} {s : Text} (h : startsMarkup (c :: s) = true) : c = '<' := by
  unfold startsMarkup at h
  split at h
  · rename_i d t heq
    simpa using congrArg List.head? heq
  · simp at h

/-- Text comes to an end here: the source is over, or markup or a brace follows. -/
def TextEnds (s : Text) : Prop := (textRun s).1 = []

/-- The characters of a text run and what follows them make up the text. -/
lemma textRun_append (s : Text) : (textRun s).1 ++ (textRun s).2 = s := by
  induction s with
  | nil => rfl
  | cons c s ih =>
    simp only [textRun]
    split
    · rfl
    · simp [ih]

/-- After a text run text has come to an end. -/
lemma textEnds_textRun (s : Text) : TextEnds (textRun s).2 := by
  induction s with
  | nil => rfl
  | cons c s ih =>
    simp only [textRun]
    split
    · rename_i h
      simp [TextEnds, textRun, h]
    · exact ih

namespace State

/-- **A parse is faithful so far**: the open elements and the nodes read after them account for
the source up to the cursor, and text that was read last has come to its end. -/
structure Faithful (source : Text) (st : State) : Prop where
  cursor_in : st.cursor.In source
  exists_base : ∃ base, FramesStand source st.stack base ∧
    Siblings source base st.done.reverse st.cursor.offset
  text_ends : ∀ node ∈ st.done.head?, node.isText = true → TextEnds st.cursor.rest

variable {source : Text} {st st' : State}

/-- A node that was read from the cursor on, and that stands in the source, keeps the parse
faithful; text may only be read where no text ended, and must be read to its end. -/
lemma Faithful.push {c : Cursor} {piece : Text} {node : Node} (h : st.Faithful source)
    (hread : st.cursor.Reads piece c) (hne : piece ≠ [])
    (hspan : node.span = ⟨st.cursor.offset, c.offset⟩) (hnode : node.Stands source)
    (hbefore : node.isText = true → ¬ TextEnds st.cursor.rest)
    (hafter : node.isText = true → TextEnds c.rest) : (st.push node c).Faithful source := by
  obtain ⟨hin, ⟨base, hframes, hsiblings⟩, hends⟩ := h
  have hlt : st.cursor.offset < c.offset := by
    rw [hread.offset_eq]
    have := Text.size_pos hne
    omega
  refine ⟨hin.of_reads hread, ⟨base, hframes, ?_⟩, ?_⟩
  · have hapart : ∀ last ∈ st.done.reverse.getLast?,
        ¬ (last.isText = true ∧ node.isText = true) := by
      intro last hlast htexts
      exact hbefore htexts.2 (hends last (by simpa using hlast) htexts.1)
    have hconcat := hsiblings.concat (by rw [hspan]) (by rw [hspan]; exact hlt) hnode hapart
    rw [hspan] at hconcat
    simpa [State.push] using hconcat
  · intro n hn
    obtain rfl : node = n := by simpa [State.push] using hn
    exact hafter

/-- Text that is read to its end keeps the parse faithful. -/
lemma Faithful.readText {d : Char} {s : Text} (h : st.Faithful source)
    (hs : st.cursor.rest = d :: s) (hbrace : d ≠ '{') (hmarkup : startsMarkup (d :: s) = false) :
    (st.readText d s).Faithful source := by
  have hread : st.cursor.Reads (d :: (textRun s).1)
      (st.cursor.advance (d :: (textRun s).1) (textRun s).2) :=
    Cursor.reads_advance (by rw [hs, List.cons_append, textRun_append])
  refine h.push hread (by simp) rfl (.text (by simp) (hread.names h.cursor_in)) (fun _ => ?_)
    (fun _ => textEnds_textRun s)
  simp [TextEnds, hs, textRun, hbrace, hmarkup]

/-- A braced expression keeps the parse faithful. -/
lemma Faithful.readExpression {s : Text} (h : st.Faithful source) (hs : st.cursor.rest = '{' :: s)
    (hst : st.readExpression = .ok st') : st'.Faithful source := by
  simp only [State.readExpression] at hst
  split at hst
  · simp at hst
  · rename_i e after hb
    simp only [Except.ok.injEq] at hst
    subst hst
    rw [hs] at hb
    have hread : st.cursor.Reads (braced e) ⟨after, st.cursor.offset + e.size + 2⟩ :=
      ⟨by rw [hs, Brace.inside?_eq_some hb], by rw [Brace.size_braced, Nat.add_assoc]⟩
    exact h.push hread (by simp [braced]) rfl (.expression (hread.names h.cursor_in))
      (by simp [Node.isText]) (by simp [Node.isText])

/-- A comment keeps the parse faithful, if its text between these marks makes it stand. -/
lemma Faithful.readComment {opening closing body : Text} (h : st.Faithful source)
    (hs : st.cursor.rest = opening ++ body) (hne : opening ≠ [])
    (hstands : ∀ {value : Text} {span : Span}, span.Names source (opening ++ value ++ closing) →
      Node.Stands source (.comment value span))
    (hst : st.readComment opening closing body = .ok st') : st'.Faithful source := by
  simp only [State.readComment] at hst
  split at hst
  · simp at hst
  · rename_i value after hb
    simp only [Except.ok.injEq] at hst
    subst hst
    have hread : st.cursor.Reads (opening ++ value ++ closing)
        ⟨after, st.cursor.offset + opening.size + value.size + closing.size⟩ :=
      ⟨by rw [hs, Text.breakOn_eq_some hb]; simp, by simp [Nat.add_assoc]⟩
    exact h.push hread (by simp [hne]) rfl (hstands (hread.names h.cursor_in))
      (by simp [Node.isText]) (by simp [Node.isText])

/-- **A close tag is read**: the start of it, some blanks and the closing bracket. -/
lemma exists_reads_closeTag {c : Cursor} {name after rest : Text}
    (hc : c.rest = "</".toList ++ name ++ after)
    (hrest : (Cursor.skipSpaces ⟨after, c.offset + 2 + name.size⟩).rest = '>' :: rest) :
    ∃ gap : Text, gap.all Text.isSpace ∧ c.Reads ("</".toList ++ name ++ gap ++ ">".toList)
      ⟨rest, (Cursor.skipSpaces ⟨after, c.offset + 2 + name.size⟩).offset + 1⟩ := by
  have hname : c.Reads ("</".toList ++ name) ⟨after, c.offset + 2 + name.size⟩ :=
    ⟨hc, by rw [Text.size_append, Nat.add_assoc]; rfl⟩
  obtain ⟨gap, hgap, hskip⟩ := Cursor.exists_reads_skipSpaces ⟨after, c.offset + 2 + name.size⟩
  have hmark : Cursor.Reads (Cursor.skipSpaces ⟨after, c.offset + 2 + name.size⟩) ">".toList
      ⟨rest, (Cursor.skipSpaces ⟨after, c.offset + 2 + name.size⟩).offset + 1⟩ := ⟨hrest, rfl⟩
  exact ⟨gap, hgap, (hname.trans hskip).trans hmark⟩

/-- A raw body stands in the source: at most one text, which makes up the stretch up to the close
tag that ends the element. -/
lemma readRaw_stands {name : Text} {start : Nat} {c c' : Cursor} {children : List Node}
    (hc : c.In source) (h : readRaw name start c = .ok (children, c')) :
    ∃ piece closed gap, c.Reads piece c' ∧ Siblings source c.offset children closed ∧
      gap.all Text.isSpace ∧ Span.Names source ⟨closed, c'.offset⟩
        ("</".toList ++ name ++ gap ++ ">".toList) := by
  simp only [readRaw] at h
  split at h
  · simp at h
  · rename_i body after hb
    split at h
    · rename_i s hs
      simp only [Except.ok.injEq, Prod.mk.injEq] at h
      obtain ⟨rfl, rfl⟩ := h
      have hbody : c.Reads body ⟨"</".toList ++ name ++ after, c.offset + body.size⟩ :=
        ⟨by rw [Text.breakOn_eq_some hb]; simp, rfl⟩
      obtain ⟨gap, hgap, hclose⟩ := exists_reads_closeTag
        (c := ⟨"</".toList ++ name ++ after, c.offset + body.size⟩) rfl hs
      refine ⟨_, c.offset + body.size, gap, hbody.trans hclose, ?_, hgap,
        hclose.names (hc.of_reads hbody)⟩
      by_cases hempty : body = []
      · simpa [hempty] using Siblings.nil source c.offset
      · have hpos := Text.size_pos hempty
        have htext : Node.Stands source (.text body ⟨c.offset, c.offset + body.size⟩) :=
          .text hempty (hbody.names hc)
        have hone := (Siblings.nil source c.offset).concat (by rfl)
          (by simp only [Node.span]; omega) htext (by simp)
        simpa [hempty, Node.span] using hone
    · simp at h

/-- A node that is not text keeps the parse faithful. -/
lemma Faithful.pushOther {c : Cursor} {piece : Text} {node : Node} (h : st.Faithful source)
    (hread : st.cursor.Reads piece c) (hne : piece ≠ [])
    (hspan : node.span = ⟨st.cursor.offset, c.offset⟩) (hnode : node.Stands source)
    (hother : node.isText = false) : (st.push node c).Faithful source :=
  h.push hread hne hspan hnode (by simp [hother]) (by simp [hother])

/-- **An opening tag keeps the parse faithful**, whether the element is read whole, with or without
a raw body, or stays open. -/
lemma Faithful.openElement {s : Text} (h : st.Faithful source) (hs : st.cursor.rest = '<' :: s)
    (hst : st.openElement s = .ok st') : st'.Faithful source := by
  simp only [State.openElement] at hst
  split at hst
  · simp at hst
  · rename_i attributes closed c hattributes
    have hname : st.cursor.Reads ('<' :: s.takeWhile isNameChar) ⟨s.dropWhile isNameChar,
        st.cursor.offset + 1 + Text.size (s.takeWhile isNameChar)⟩ :=
      ⟨by rw [hs, List.cons_append, List.takeWhile_append_dropWhile],
        by rw [Text.size_cons, Nat.add_assoc]; rfl⟩
    obtain ⟨new, piece, hnew, hpiece, hstand⟩ :=
      Tag.readAttributes_stand (h.cursor_in.of_reads hname) hattributes
    obtain rfl : attributes = new := by simpa using hnew
    have hopen := hname.trans hpiece
    have htag : Tag.Stands source ⟨s.takeWhile isNameChar, attributes,
        closed || isVoid (s.takeWhile isNameChar)⟩ st.cursor.offset c.offset :=
      ⟨_, closed, hname.names h.cursor_in, hstand, rfl⟩
    split_ifs at hst with hclosed hraw
    · simp only [Except.ok.injEq] at hst
      subst hst
      rw [hclosed] at htag
      exact h.pushOther hopen (by simp) rfl (.closed htag rfl) rfl
    · rw [Bool.eq_false_iff.2 hclosed] at htag
      split at hst
      · simp at hst
      · rename_i children c' hread
        simp only [Except.ok.injEq] at hst
        subst hst
        obtain ⟨body, stop, gap, hbody, hsiblings, hgap, hclose⟩ :=
          readRaw_stands (h.cursor_in.of_reads hopen) hread
        exact h.pushOther (hopen.trans hbody) (by simp) rfl
          (.element htag rfl hsiblings.tiles hsiblings.apart hsiblings.stand hgap hclose) rfl
    · rw [Bool.eq_false_iff.2 hclosed] at htag
      simp only [Except.ok.injEq] at hst
      subst hst
      obtain ⟨hin, ⟨base, hframes, hsiblings⟩, -⟩ := h
      exact ⟨hin.of_reads hopen, ⟨c.offset, ⟨htag, rfl, base, hsiblings, hframes⟩, .nil _ _⟩,
        by simp⟩

/-- **A close tag keeps the parse faithful**: the element that was open last and the nodes read
since make up a node of the list around it. -/
lemma Faithful.closeElement {s : Text} (h : st.Faithful source)
    (hs : st.cursor.rest = '<' :: '/' :: s) (hst : st.closeElement s = .ok st') :
    st'.Faithful source := by
  simp only [State.closeElement] at hst
  split at hst
  · rename_i after hafter
    have hrest : st.cursor.rest =
        "</".toList ++ s.takeWhile isNameChar ++ s.dropWhile isNameChar := by
      rw [hs, List.append_assoc, List.takeWhile_append_dropWhile]
      rfl
    obtain ⟨gap, hgap, hread⟩ := exists_reads_closeTag hrest hafter
    generalize Cursor.skipSpaces ⟨s.dropWhile isNameChar,
      st.cursor.offset + 2 + Text.size (s.takeWhile isNameChar)⟩ = c at hst hread
    split at hst
    · simp at hst
    · rename_i frame stack hstack
      split_ifs at hst with heq
      simp only [Except.ok.injEq] at hst
      subst hst
      obtain ⟨hin, ⟨base, hframes, hsiblings⟩, -⟩ := h
      rw [hstack] at hframes
      obtain ⟨htag, hopen, outer, hbefore, hbelow⟩ := hframes
      have hends := hread.names hin
      rw [← heq] at hends
      have hnode : Node.Stands source
          (.element frame.tag st.done.reverse ⟨frame.start, c.offset + 1⟩) :=
        .element htag hopen hsiblings.tiles hsiblings.apart hsiblings.stand hgap hends
      have hlt : frame.start < c.offset + 1 := by
        have := htag.start_lt_stop
        have := hsiblings.tiles.start_le_stop
        have := hends.start_le_stop
        simp only at this
        omega
      refine ⟨hin.of_reads hread, ⟨outer, hbelow, ?_⟩, by simp [Node.isText]⟩
      have hconcat := hbefore.concat (by rfl) (by exact hlt) hnode (by simp [Node.isText])
      simpa [Node.span] using hconcat
  · simp at hst

/-! ### A whole parse -/

/-- **One step of a parse keeps the account.** -/
theorem Faithful.step (h : st.Faithful source) (hst : st.step = .ok st') :
    st'.Faithful source := by
  unfold State.step at hst
  split at hst
  · simp only [Except.ok.injEq] at hst
    rwa [← hst]
  · rename_i s hs
    exact h.closeElement hs hst
  · rename_i s hs
    exact h.readComment hs (by simp) .comment hst
  · rename_i s _ hs
    exact h.readComment hs (by simp) .declaration hst
  · rename_i s hs
    exact h.readExpression hs hst
  · rename_i d s _ _ _ hbrace hs
    split_ifs at hst with hmarkup
    · obtain rfl := eq_lt_of_startsMarkup hmarkup
      exact h.openElement hs hst
    · simp only [Except.ok.injEq] at hst
      subst hst
      exact h.readText hs hbrace (Bool.eq_false_iff.2 hmarkup)

/-- The nodes of a parse that comes to its end make up the source, from any faithful state on. -/
theorem Faithful.run {nodes : List Node} (h : st.Faithful source) (hrun : st.run = .ok nodes) :
    Siblings source 0 nodes source.size := by
  fun_induction State.run st with
  | case1 st hrest hstack =>
    obtain ⟨⟨before, hbefore, hsize⟩, ⟨base, hframes, hsiblings⟩, -⟩ := h
    simp only [Except.ok.injEq] at hrun
    rw [hstack] at hframes
    obtain rfl : base = 0 := hframes
    rw [hrest, List.append_nil] at hbefore
    rwa [hbefore, hsize, ← hbefore, ← hrun]
  | case2 => simp at hrun
  | case3 => simp at hrun
  | case4 st hrest st₁ hstep ih => exact ih (h.step hstep) hrun

end State

/-- The start of a parse is faithful. -/
lemma State.faithful_start (source : Text) : State.Faithful source ⟨[], [], ⟨source, 0⟩⟩ :=
  ⟨⟨[], rfl, rfl⟩, ⟨0, rfl, .nil _ _⟩, by simp⟩

/-- The nodes of a source that is read without an error make it up. -/
lemma siblings_of_parse {source : Text} {document : Document} (h : parse source = .ok document) :
    Siblings source 0 document.nodes source.size := by
  unfold parse at h
  split at h
  · simp at h
  · rename_i nodes hrun
    simp only [Except.ok.injEq] at h
    rw [← h]
    exact (State.faithful_start source).run hrun

/-- **Reading markup loses nothing.** The nodes of a source that is read without an error make it
up: their spans tile it, each of them stands in it with everything below, and no two texts are
neighbours. -/
theorem parse_accounts_for_source {source : Text} {document : Document}
    (h : parse source = .ok document) :
    document.span = ⟨0, source.size⟩ ∧ Siblings source 0 document.nodes source.size := by
  refine ⟨?_, siblings_of_parse h⟩
  unfold parse at h
  split at h
  · simp at h
  · simp only [Except.ok.injEq] at h
    rw [← h]

/-- A paragraph with two attributes, a stray bracket after a character of two bytes, an expression
and a void element is made up by its nodes. -/
theorem parse_accounts_for_paragraph :
    Siblings "<p a=\"1\" b>é< \x7be\x7d<br></p >".toList 0
      [.element ⟨"p".toList, [⟨"a".toList, .text [.text "1".toList], ⟨3, 8⟩⟩,
          ⟨"b".toList, .empty, ⟨9, 10⟩⟩], false⟩
        [.text "é< ".toList ⟨11, 15⟩, .expression "e".toList ⟨15, 18⟩,
          .element ⟨"br".toList, [], true⟩ [] ⟨18, 22⟩] ⟨0, 27⟩] 27 := by
  have hparse : parse "<p a=\"1\" b>é< \x7be\x7d<br></p >".toList = .ok
      ⟨[.element ⟨"p".toList, [⟨"a".toList, .text [.text "1".toList], ⟨3, 8⟩⟩,
          ⟨"b".toList, .empty, ⟨9, 10⟩⟩], false⟩
        [.text "é< ".toList ⟨11, 15⟩, .expression "e".toList ⟨15, 18⟩,
          .element ⟨"br".toList, [], true⟩ [] ⟨18, 22⟩] ⟨0, 27⟩], ⟨0, 27⟩⟩ := by
    decide +kernel
  exact (parse_accounts_for_source hparse).2

end OneFile.Markup
