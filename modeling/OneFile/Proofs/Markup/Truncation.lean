import Mathlib.Data.List.TakeWhile
import OneFile.Proofs.Markup.Inversion

/-!
# Reading does not depend on what it has not reached

What is read from the start of a source, and ends before some text `t` that ends the source, is
read alike when `t` is taken away. This is the converse of reading no further than it must: there
more text is put behind a source, here it is removed. What is left must end in a closing bracket,
so that no run of characters ends just because of the way `t` starts.

## Main definitions

* `OneFile.Text.EndsInBracket` — a text whose last character is a closing bracket.

## Main results

* `OneFile.Markup.Tag.readAttributes_of_extend` — an opening tag stays as it is.
* `OneFile.Markup.State.ReadsTag.exists_opening` — whatever follows it.
* `OneFile.Markup.State.step_of_extend` — so does what one step of a parse reads.
* `OneFile.Markup.State.Steps.of_extend` — and what some steps of a parse read.
-/

namespace OneFile

/-! ### Texts that end in a closing bracket -/

namespace Text

/-- The last character of the text, if it has any, is a closing bracket. -/
def EndsInBracket (s : Text) : Prop := ∀ c ∈ s.getLast?, c = '>'

/-- So is that of what the text ends in. -/
lemma EndsInBracket.of_append {s t : Text} (h : EndsInBracket (s ++ t)) : EndsInBracket t := by
  intro c hc
  exact h c (by simp [List.getLast?_append, Option.mem_def.1 hc])

/-- A text ends in a closing bracket if what it ends in does and is not empty. -/
lemma EndsInBracket.append {t : Text} (h : EndsInBracket t) (s : Text) (hne : t ≠ []) :
    EndsInBracket (s ++ t) := by
  intro c hc
  rw [List.getLast?_append_of_ne_nil s hne] at hc
  exact h c hc

/-- Any other character is followed by something that ends in a closing bracket. -/
lemma EndsInBracket.exists_cons {c : Char} {s : Text} (h : EndsInBracket (c :: s)) (hc : c ≠ '>') :
    ∃ d u, s = d :: u ∧ EndsInBracket (d :: u) := by
  cases s with
  | nil => exact absurd (h c rfl) hc
  | cons d u => exact ⟨d, u, rfl, h.of_append (s := [c])⟩

/-- A text that ends in a closing bracket has other characters than those that satisfy `p`, if that
bracket does not. -/
lemma EndsInBracket.dropWhile_ne_nil {p : Char → Bool} {s : Text} (h : EndsInBracket s)
    (hne : s ≠ []) (hp : p '>' = false) : s.dropWhile p ≠ [] := by
  intro hnil
  have hall := List.dropWhile_eq_nil_iff.1 hnil
  have hlast := h _ (List.getLast?_eq_some_getLast hne)
  have hmem := hall _ (List.getLast_mem hne)
  rw [hlast, hp] at hmem
  cases hmem

end Text

namespace Cursor

variable {t : Text} {c c' : Cursor}

/-- A cursor is before itself. -/
lemma Before.of_eq (h : c = c') : c.Before c' := h ▸ .refl c

/-- What is read up to a place with `t` behind it starts at a place with `t` behind it. -/
lemma Before.exists_extend (h : c.Before (c'.extend t)) :
    ∃ c₁ : Cursor, c = c₁.extend t ∧ c₁.Before c' := by
  obtain ⟨piece, hrest, hoffset⟩ := h
  refine ⟨⟨piece ++ c'.rest, c.offset⟩, ?_, piece, rfl, hoffset⟩
  rw [extend, List.append_assoc, ← rest_extend, ← hrest]

/-- What is left later ends the same way. -/
lemma Before.endsInBracket (h : c.Before c') (hends : c.rest.EndsInBracket) :
    c'.rest.EndsInBracket := by
  obtain ⟨piece, hrest, -⟩ := h
  rw [hrest] at hends
  exact hends.of_append

/-- What was left before ends the same way, if something is left later. -/
lemma Before.endsInBracket_of_ne_nil (h : c.Before c') (hends : c'.rest.EndsInBracket)
    (hne : c'.rest ≠ []) : c.rest.EndsInBracket := by
  obtain ⟨piece, hrest, -⟩ := h
  rw [hrest]
  exact hends.append piece hne

/-- A cursor is what it is extended from. -/
lemma extend_injective (h : c.extend t = c'.extend t) : c = c' := by
  obtain ⟨rest, offset⟩ := c
  obtain ⟨rest', offset'⟩ := c'
  simpa [extend] using h

/-- Something was left before, if something is left later. -/
lemma Before.ne_nil_of_ne_nil (h : c.Before c') (hne : c'.rest ≠ []) : c.rest ≠ [] := by
  obtain ⟨piece, hrest, -⟩ := h
  simp [hrest, hne]

/-- Separators are skipped alike without what comes after them. -/
lemma skipSpaces_of_extend (h : (c.extend t).skipSpaces = c'.extend t) : c.skipSpaces = c' := by
  obtain ⟨rest', offset'⟩ := c'
  simp only [skipSpaces, skipWhile, advance, extend, Cursor.mk.injEq] at h ⊢
  obtain ⟨htake, hdrop⟩ := Text.takeWhile_of_extend h.1
  rw [htake]
  exact ⟨hdrop, h.2⟩

/-- So what is left after them says where they end. -/
lemma skipSpaces_eq_of_rest {rest : Text} (h : (c.extend t).skipSpaces.rest = rest ++ t) :
    c.skipSpaces = ⟨rest, (c.extend t).skipSpaces.offset⟩ := by
  refine skipSpaces_of_extend (t := t) ?_
  show _ = (⟨rest ++ t, _⟩ : Cursor)
  rw [← h]

/-- A closing bracket is no separator. -/
lemma skipSpaces_ne_nil (hends : c.rest.EndsInBracket) (hne : c.rest ≠ []) :
    c.skipSpaces.rest ≠ [] :=
  hends.dropWhile_ne_nil hne rfl

/-- Skipping spaces goes on. -/
lemma before_skipSpaces (c : Cursor) : c.Before c.skipSpaces := before_skipWhile _ c

end Cursor

namespace Markup

variable {t : Text}

/-! ### Braces -/

/-- A braced expression is read alike without what comes after it. -/
lemma Brace.inside?_of_extend {s source after : Text}
    (h : Brace.inside? (s ++ t) = some (source, after ++ t)) :
    Brace.inside? s = some (source, after) := by
  obtain ⟨hscan, whole, hwhole, rfl⟩ := Brace.inside?_eq_some_iff.1 h
  rw [← List.append_assoc] at hwhole
  exact Brace.inside?_eq_some_iff.2
    ⟨Brace.afterClosing?_of_append hscan, whole, List.append_cancel_right hwhole, rfl⟩

/-! ### Attributes -/

/-- A name of an attribute is read alike without what comes after it. -/
lemma attributeName_of_extend {s name rest : Text} (hends : rest.EndsInBracket)
    (h : attributeName (s ++ t) = (name, rest ++ t)) : attributeName s = (name, rest) := by
  simp only [attributeName_eq_upTo] at h ⊢
  refine Text.upTo_of_extend (fun c hc => ?_) (fun c d u => by simp [endsName])
    (fun c hrest _ => ?_) h
  · simp only [endsName, Bool.or_eq_true] at hc ⊢
    exact .inl (by simpa using hc)
  · obtain rfl : c = '>' := hends c (by simp [hrest])
    rfl

/-- A bare value is read alike without what comes after it. -/
lemma bareValue_of_extend {s value rest : Text} (hends : rest.EndsInBracket)
    (h : bareValue (s ++ t) = (value, rest ++ t)) : bareValue s = (value, rest) := by
  simp only [bareValue_eq_upTo] at h ⊢
  refine Text.upTo_of_extend (fun c hc => ?_) (fun c d u => by simp [endsValue])
    (fun c hrest _ => ?_) h
  · simp only [endsValue, Bool.or_eq_true] at hc ⊢
    exact .inl (by simpa using hc)
  · obtain rfl : c = '>' := hends c (by simp [hrest])
    rfl

/-- A value is read alike without what comes after it, if something is left before that. -/
lemma AttributeValue.read_of_extend {name : Text} {start : Nat} {c c' : Cursor} {v : AttributeValue}
    (h : AttributeValue.read name start (c.extend t) = .ok (v, c'.extend t))
    (hends : c'.rest.EndsInBracket) (hne : c'.rest ≠ []) :
    AttributeValue.read name start c = .ok (v, c') := by
  have hshorter := AttributeValue.read_shorter h
  obtain ⟨rest, offset⟩ := c
  obtain ⟨rest', offset'⟩ := c'
  unfold AttributeValue.read at h ⊢
  cases rest with
  | nil =>
    have hpos := List.length_pos_iff.2 hne
    simp only [Cursor.rest_extend, List.length_append, List.length_nil] at hshorter hpos
    omega
  | cons d s =>
    simp only [Cursor.extend, List.cons_append] at h ⊢
    split_ifs at h ⊢ with hquote hbrace
    · split at h
      · simp at h
      · rename_i value after hfound
        simp only [Except.ok.injEq, Prod.mk.injEq, Cursor.advance, Cursor.mk.injEq] at h
        obtain ⟨rfl, rfl, hoffset⟩ := h
        rw [Text.breakOn_of_extend hfound]
        simp [Cursor.advance, ← hoffset]
    · split at h
      · simp at h
      · rename_i source after hinside
        simp only [Except.ok.injEq, Prod.mk.injEq, Cursor.mk.injEq] at h
        obtain ⟨rfl, rfl, hoffset⟩ := h
        rw [← List.cons_append] at hinside
        rw [Brace.inside?_of_extend hinside]
        simp [← hoffset]
    · simp only [Except.ok.injEq, Prod.mk.injEq, Cursor.advance, Cursor.mk.injEq] at h
      obtain ⟨rfl, hrest, hoffset⟩ := h
      have hbare := bareValue_of_extend (s := d :: s) hends (Prod.ext rfl hrest)
      simp [Cursor.advance, hbare, ← hoffset]

/-- What is read for a value comes before what is left. -/
lemma AttributeValue.before_of_read {name : Text} {start : Nat} {c c' : Cursor}
    {v : AttributeValue} (h : AttributeValue.read name start c = .ok (v, c')) : c.Before c' := by
  obtain ⟨written, -, hreads⟩ := AttributeValue.read_reads h
  exact ⟨written, hreads⟩

/-- What is read for an attribute comes before what is left. -/
lemma Attribute.before_of_read {tag : Text} {c c' : Cursor} {a : Attribute}
    (h : Attribute.read tag c = .ok (a, c')) : c.Before c' := by
  obtain ⟨-, -, written, -, hreads⟩ := Attribute.read_reads h
  exact ⟨written, hreads⟩

/-- **An attribute is read alike without what comes after it**, if something is left before
that. -/
lemma Attribute.read_of_extend {tag : Text} {c c' : Cursor} {a : Attribute}
    (h : Attribute.read tag (c.extend t) = .ok (a, c'.extend t))
    (hends : c'.rest.EndsInBracket) (hne : c'.rest ≠ []) : Attribute.read tag c = .ok (a, c') := by
  obtain ⟨name, d, ⟨hname, hrest, hoffset⟩, h⟩ := Attribute.read_eq_ok_iff.1 h
  have hafter : d.Before (c'.extend t) := by
    rcases h with ⟨-, heq, -⟩ | ⟨s, v, hs, hv, -⟩
    · rw [heq]
      exact .refl _
    · have hequals : Cursor.Before d.skipSpaces ⟨s, d.skipSpaces.offset + 1⟩ := ⟨['='], hs, rfl⟩
      exact (Cursor.before_skipSpaces d).trans
        (hequals.trans ((Cursor.before_skipSpaces _).trans (AttributeValue.before_of_read hv)))
  obtain ⟨c₁, rfl, hbefore⟩ := hafter.exists_extend
  have hends₁ := hbefore.endsInBracket_of_ne_nil hends hne
  have hskip := Cursor.skipSpaces_extend t
    (Cursor.skipSpaces_ne_nil hends₁ (hbefore.ne_nil_of_ne_nil hne))
  refine Attribute.read_eq_ok_iff.2 ⟨name, c₁, ⟨hname, attributeName_of_extend hends₁ hrest,
    hoffset⟩, ?_⟩
  rcases h with ⟨hother, heq, rfl⟩ | ⟨s, v, hs, hv, rfl⟩
  · obtain rfl := Cursor.extend_injective heq
    refine .inl ⟨fun s hs => hother (s ++ t) ?_, rfl, rfl⟩
    rw [hskip, Cursor.rest_extend, hs, List.cons_append]
  · rw [hskip] at hs hv
    have hvalue := AttributeValue.before_of_read hv
    obtain ⟨⟨u, offset⟩, hu, -⟩ := ((Cursor.before_skipSpaces _).trans hvalue).exists_extend
    obtain ⟨d, hd, -⟩ := hvalue.exists_extend
    rw [hd] at hv
    rw [hu] at hd
    simp only [Cursor.extend, Cursor.mk.injEq] at hu
    obtain ⟨rfl, hoffset'⟩ := hu
    refine .inr ⟨u, v, ?_, ?_, rfl⟩
    · rw [Cursor.rest_extend, ← List.cons_append] at hs
      exact List.append_cancel_right hs
    · rw [hoffset', Cursor.skipSpaces_of_extend hd]
      exact AttributeValue.read_of_extend hv hends hne

/-- What is read for the attributes of a tag ends in a closing bracket. -/
lemma Tag.readAttributes_reads {tag : Text} {start : Nat} {read as : List Attribute} {closed : Bool}
    {c c' : Cursor} (h : Tag.readAttributes tag start read c = .ok (as, closed, c')) :
    ∃ piece, c.Reads (piece ++ ['>']) c' := by
  fun_induction Tag.readAttributes tag start read c with
  | case1 => simp at h
  | case2 read c c₁ s hs =>
    simp only [Except.ok.injEq, Prod.mk.injEq] at h
    obtain ⟨-, -, rfl⟩ := h
    obtain ⟨gap, -, hskip⟩ := c.exists_reads_skipSpaces
    exact ⟨gap, hskip.trans ⟨hs, rfl⟩⟩
  | case3 read c c₁ s hs =>
    simp only [Except.ok.injEq, Prod.mk.injEq] at h
    obtain ⟨-, -, rfl⟩ := h
    obtain ⟨gap, -, hskip⟩ := c.exists_reads_skipSpaces
    refine ⟨gap ++ ['/'], ?_⟩
    rw [List.append_assoc]
    exact hskip.trans ⟨hs, rfl⟩
  | case4 => simp at h
  | case5 read c c₁ a c₂ hread _ _ _ ih =>
    obtain ⟨gap, -, hskip⟩ := c.exists_reads_skipSpaces
    obtain ⟨written, hwritten⟩ := Attribute.before_of_read hread
    obtain ⟨piece, hpiece⟩ := ih h
    refine ⟨gap ++ written ++ piece, ?_⟩
    rw [List.append_assoc]
    exact (hskip.trans hwritten).trans hpiece

/-- **An opening tag is read alike without what comes after it.**

**Proof sketch.** Induction along the reading of attributes. After each of them something is left,
if only the closing mark, so that `Attribute.read_of_extend` applies. -/
lemma Tag.readAttributes_of_extend {tag : Text} {start : Nat} {read as : List Attribute}
    {closed : Bool} {c c' : Cursor}
    (h : Tag.readAttributes tag start read (c.extend t) = .ok (as, closed, c'.extend t))
    (hends : c.rest.EndsInBracket) :
    Tag.readAttributes tag start read c = .ok (as, closed, c') := by
  generalize hd : c.extend t = d at h
  fun_induction Tag.readAttributes tag start read d generalizing c with
  | case1 => simp at h
  | case2 read d d₁ s =>
    rename_i hs
    subst hd
    obtain ⟨rest', offset'⟩ := c'
    simp only [Except.ok.injEq, Prod.mk.injEq, Cursor.extend, Cursor.mk.injEq] at h
    obtain ⟨rfl, rfl, rfl, rfl⟩ := h
    have hskip : c.skipSpaces = ⟨'>' :: rest', _⟩ := Cursor.skipSpaces_eq_of_rest hs
    rw [Tag.readAttributes, hskip]
    rfl
  | case3 read d d₁ s =>
    rename_i hs
    subst hd
    obtain ⟨rest', offset'⟩ := c'
    simp only [Except.ok.injEq, Prod.mk.injEq, Cursor.extend, Cursor.mk.injEq] at h
    obtain ⟨rfl, rfl, rfl, rfl⟩ := h
    have hskip : c.skipSpaces = ⟨'/' :: '>' :: rest', _⟩ := Cursor.skipSpaces_eq_of_rest hs
    rw [Tag.readAttributes, hskip]
    rfl
  | case4 => simp at h
  | case5 read d d₁ a d₂ hread hne hopen hclosed =>
    rename_i ih
    subst hd
    obtain ⟨piece, hpiece⟩ := Tag.readAttributes_reads h
    have hafter : d₂.Before (c'.extend t) := ⟨_, hpiece⟩
    obtain ⟨c₂, rfl, hbefore⟩ := hafter.exists_extend
    have hne₂ : c₂.rest ≠ [] := by
      intro hnil
      have hlength := congrArg List.length hpiece.rest_eq
      simp only [Cursor.rest_extend, hnil, List.nil_append, List.length_append,
        List.length_singleton] at hlength
      omega
    obtain ⟨c₁, hc₁, hbefore₁⟩ := (Attribute.before_of_read hread).exists_extend
    have hskip : c.skipSpaces = c₁ := Cursor.skipSpaces_of_extend hc₁
    have hends₂ : c₂.rest.EndsInBracket := by
      rw [← hskip] at hbefore₁
      exact ((Cursor.before_skipSpaces c).trans hbefore₁).endsInBracket hends
    rw [hc₁] at hread
    rw [Tag.readAttributes_of_read hskip (fun s => ⟨fun hs => hopen (s ++ t) ?_,
      fun hs => hclosed (s ++ t) ?_⟩) (Attribute.read_of_extend hread hends₂ hne₂)]
    · exact ih hends₂ rfl h
    · rw [hc₁, Cursor.rest_extend, hs, List.cons_append]
    · rw [hc₁, Cursor.rest_extend, hs, List.cons_append, List.cons_append]

/-- An opening tag is read alike without what comes after it, its name included. -/
lemma Tag.read_of_extend {s : Text} {start offset : Nat} {as : List Attribute} {closed : Bool}
    {c : Cursor} (hends : s.EndsInBracket)
    (h : Tag.readAttributes ((s ++ t).takeWhile isNameChar) start []
      ⟨(s ++ t).dropWhile isNameChar, offset + Text.size ((s ++ t).takeWhile isNameChar)⟩ =
        .ok (as, closed, c.extend t)) :
    (s ++ t).takeWhile isNameChar = s.takeWhile isNameChar ∧
      Tag.readAttributes (s.takeWhile isNameChar) start []
        ⟨s.dropWhile isNameChar, offset + Text.size (s.takeWhile isNameChar)⟩ =
          .ok (as, closed, c) := by
  obtain ⟨piece, hpiece⟩ := Tag.readAttributes_reads h
  obtain ⟨⟨gap, offset'⟩, hgap, -⟩ := Cursor.Before.exists_extend ⟨_, hpiece⟩
  obtain ⟨htake, hdrop⟩ := Text.takeWhile_of_extend (congrArg Cursor.rest hgap)
  rw [hgap] at h
  obtain rfl : _ = offset' := congrArg Cursor.offset hgap
  rw [htake, hdrop]
  refine ⟨rfl, Tag.readAttributes_of_extend h ?_⟩
  rw [← List.takeWhile_append_dropWhile (p := isNameChar) (l := s), hdrop] at hends
  exact hends.of_append

/-- Text is read alike without what comes after it. -/
lemma textRun_of_extend {s run rest : Text} (hends : rest.EndsInBracket)
    (h : textRun (s ++ t) = (run, rest ++ t)) : textRun s = (run, rest) := by
  simp only [textRun_eq_upTo] at h ⊢
  refine Text.upTo_of_extend (fun c hc => ?_) (fun c d u => ?_) (fun c hrest hc => ?_) h
  · simp only [startsMarkup_singleton, Bool.or_false] at hc
    simp [hc]
  · have hstarts := startsMarkup_extend t c d u
    rw [List.cons_append] at hstarts
    rw [hstarts]
  · obtain rfl : c = '>' := hends c (by simp [hrest])
    simp [startsMarkup] at hc

/-! ### One step of a parse -/

namespace State

variable {st st' : State}

/-- A state is what it is extended from. -/
lemma extend_injective (h : st.extend t = st'.extend t) : st = st' := by
  obtain ⟨done, stack, c⟩ := st
  obtain ⟨done', stack', c'⟩ := st'
  simp only [extend, State.mk.injEq] at h
  rw [h.1, h.2.1, Cursor.extend_injective h.2.2]

/-- A braced expression is read alike without what comes after it. -/
lemma readExpression_of_extend (h : (st.extend t).readExpression = .ok (st'.extend t)) :
    st.readExpression = .ok st' := by
  obtain ⟨done', stack', rest', offset'⟩ := st'
  simp only [readExpression] at h ⊢
  split at h
  · simp at h
  · rename_i source after hinside
    simp only [Except.ok.injEq, extend, push, Cursor.extend, State.mk.injEq, Cursor.mk.injEq] at h
    obtain ⟨rfl, rfl, rfl, rfl⟩ := h
    rw [Brace.inside?_of_extend hinside]
    rfl

/-- A comment is read alike without what comes after it. -/
lemma readComment_of_extend {opening closing body : Text}
    (h : (st.extend t).readComment opening closing (body ++ t) = .ok (st'.extend t)) :
    st.readComment opening closing body = .ok st' := by
  obtain ⟨done', stack', rest', offset'⟩ := st'
  simp only [readComment] at h ⊢
  split at h
  · simp at h
  · rename_i value after hfound
    simp only [Except.ok.injEq, extend, push, Cursor.extend, State.mk.injEq, Cursor.mk.injEq] at h
    obtain ⟨rfl, rfl, rfl, rfl⟩ := h
    rw [Text.breakOn_of_extend hfound]
    rfl

/-- What is read for a raw body comes before what is left. -/
lemma before_of_readRaw {name : Text} {start : Nat} {c c' : Cursor} {children : List Node}
    (h : readRaw name start c = .ok (children, c')) : c.Before c' := by
  obtain ⟨body, after, rest, hfound, hrest, -, rfl⟩ := readRaw_eq_ok_iff.1 h
  have hbody : c.Reads (body ++ ("</".toList ++ name))
      ⟨after, c.offset + body.size + 2 + name.size⟩ := by
    refine ⟨by simp [Text.breakOn_eq_some hfound], ?_⟩
    have hmark : Text.size "</".toList = 2 := rfl
    simp only [Text.size_append, hmark]
    omega
  exact .trans ⟨_, hbody⟩ ((Cursor.before_skipSpaces _).trans ⟨['>'], hrest, rfl⟩)

/-- A raw body is read alike without what comes after its close tag. -/
lemma readRaw_of_extend {name : Text} {start : Nat} {c c' : Cursor} {children : List Node}
    (h : readRaw name start (c.extend t) = .ok (children, c'.extend t)) :
    readRaw name start c = .ok (children, c') := by
  obtain ⟨rest', offset'⟩ := c'
  obtain ⟨body, after, rest, hfound, hrest, rfl, hc'⟩ := readRaw_eq_ok_iff.1 h
  have hafter : Cursor.Before ⟨after, (c.extend t).offset + body.size + 2 + name.size⟩
      (Cursor.extend t ⟨rest', offset'⟩) := by
    rw [hc']
    exact (Cursor.before_skipSpaces _).trans ⟨['>'], hrest, rfl⟩
  obtain ⟨⟨after', offset⟩, heq, -⟩ := hafter.exists_extend
  simp only [Cursor.extend, Cursor.mk.injEq] at heq hc'
  obtain ⟨rfl, rfl⟩ := heq
  obtain ⟨rfl, rfl⟩ := hc'
  have hskip : Cursor.skipSpaces ⟨after', c.offset + body.size + 2 + name.size⟩ =
      ⟨'>' :: rest', _⟩ := Cursor.skipSpaces_eq_of_rest hrest
  refine readRaw_eq_ok_iff.2 ⟨body, after', rest', Text.breakOn_of_extend hfound, ?_, rfl, ?_⟩
  · rw [hskip]
  · rw [hskip]
    rfl

/-- A close tag is read alike without what comes after it. -/
lemma closeElement_of_extend {s : Text}
    (h : (st.extend t).closeElement (s ++ t) = .ok (st'.extend t)) :
    st.closeElement s = .ok st' := by
  simp only [closeElement] at h
  split at h
  · rename_i after hafter
    split at h
    · simp at h
    · rename_i frame stack hstack
      split_ifs at h with hname
      simp only [Except.ok.injEq] at h
      obtain rfl : after = st'.cursor.rest ++ t := congrArg (fun st => st.cursor.rest) h
      have hbefore : Cursor.Before ⟨(s ++ t).dropWhile isNameChar, (st.extend t).cursor.offset + 2 +
          Text.size ((s ++ t).takeWhile isNameChar)⟩ (st'.cursor.extend t) :=
        (Cursor.before_skipSpaces _).trans
          ⟨['>'], hafter, (congrArg (fun st => st.cursor.offset) h).symm⟩
      obtain ⟨⟨gap, offset⟩, hgap, -⟩ := hbefore.exists_extend
      obtain ⟨htake, hdrop⟩ := Text.takeWhile_of_extend (congrArg Cursor.rest hgap)
      simp only [Cursor.extend, Cursor.mk.injEq] at hgap
      rw [hgap.1, ← htake] at hafter h
      have hskip : Cursor.skipSpaces
          ⟨gap, st.cursor.offset + 2 + Text.size (s.takeWhile isNameChar)⟩ =
            ⟨'>' :: st'.cursor.rest, _⟩ := Cursor.skipSpaces_eq_of_rest hafter
      have hstack' : st.stack = frame :: stack := hstack
      rw [← htake] at hname
      simp only [closeElement, hdrop, hskip, hstack', if_pos hname]
      exact congrArg _ (extend_injective h)
  · simp at h

/-- An opening tag is read alike without what comes after it, and so is the raw body after it if
there is one. -/
lemma openElement_of_extend {s : Text} (hends : s.EndsInBracket)
    (h : (st.extend t).openElement (s ++ t) = .ok (st'.extend t)) :
    st.openElement s = .ok st' := by
  simp only [openElement] at h
  split at h
  · simp at h
  · rename_i attributes closed c hread
    have hafter : c.Before (st'.cursor.extend t) := by
      split_ifs at h
      · simp only [Except.ok.injEq] at h
        exact .of_eq (congrArg cursor h)
      · split at h
        · simp at h
        · rename_i hbody
          simp only [Except.ok.injEq] at h
          exact (before_of_readRaw hbody).trans (.of_eq (congrArg cursor h))
      · simp only [Except.ok.injEq] at h
        exact .of_eq (congrArg cursor h)
    obtain ⟨c₁, rfl, -⟩ := hafter.exists_extend
    have hname := (Tag.read_of_extend hends hread).1
    have hread' : Tag.readAttributes (s.takeWhile isNameChar) st.cursor.offset [] ⟨_,
        st.cursor.offset + 1 + _⟩ = _ := (Tag.read_of_extend hends hread).2
    rw [hname] at h
    simp only [openElement, hread']
    split_ifs at h ⊢ with hclosed hraw
    · exact congrArg _ (extend_injective (Except.ok.inj h))
    · split at h
      · simp at h
      · rename_i children c' hbody
        obtain ⟨c₂, rfl⟩ : ∃ c₂ : Cursor, c' = c₂.extend t :=
          ⟨_, congrArg cursor (Except.ok.inj h)⟩
        have hbody' : readRaw (s.takeWhile isNameChar) st.cursor.offset c₁ = _ :=
          readRaw_of_extend hbody
        have heq : (st.push (.element ⟨s.takeWhile isNameChar, attributes, false⟩ children
            ⟨st.cursor.offset, c₂.offset⟩) c₂).extend t = st'.extend t := Except.ok.inj h
        rw [hbody', ← extend_injective heq]
    · exact congrArg _ (extend_injective (Except.ok.inj h))

/-- **An opening tag is read alike whatever follows it**: `opening` is what is read for it.

**Proof sketch.** What follows it is taken away, by `Tag.read_of_extend`, and something else is put
in its place, by `Tag.readAttributes_extend`. -/
lemma ReadsTag.exists_opening {s : Text} {attributes : List Attribute} {closed : Bool} {c : Cursor}
    (h : st.ReadsTag s attributes closed c) :
    ∃ opening, st.cursor.Reads opening c ∧ opening ≠ [] ∧ opening.EndsInBracket ∧
      ∀ u, ∃ s', State.ReadsTag ⟨st.done, st.stack, ⟨opening ++ u, st.cursor.offset⟩⟩ s'
        attributes closed ⟨u, c.offset⟩ ∧ s'.takeWhile isNameChar = s.takeWhile isNameChar := by
  obtain ⟨piece, hpiece⟩ := Tag.readAttributes_reads h.read
  have hreads := h.reads_name.trans hpiece
  obtain ⟨hrest, ⟨d, hd, halpha⟩, hread⟩ := h
  have hs : s = s.takeWhile isNameChar ++ (piece ++ ['>']) ++ c.rest := by
    rw [List.append_assoc, ← hpiece.rest_eq, List.takeWhile_append_dropWhile]
  have hlast : Text.EndsInBracket ['>'] := by simp [Text.EndsInBracket]
  have hends : Text.EndsInBracket (s.takeWhile isNameChar ++ (piece ++ ['>'])) := by
    rw [← List.append_assoc]
    exact hlast.append _ (by simp)
  have hne : s.takeWhile isNameChar ++ (piece ++ ['>']) ≠ [] := by simp
  rw [List.cons_append] at hreads
  generalize s.takeWhile isNameChar ++ (piece ++ ['>']) = inner at hs hends hne hreads
  subst hs
  have halone : c = Cursor.extend c.rest ⟨[], c.offset⟩ := rfl
  rw [halone] at hread
  obtain ⟨hname, hread'⟩ := Tag.read_of_extend hends hread
  obtain ⟨e, tail, rfl⟩ := List.exists_cons_of_ne_nil hne
  refine ⟨'<' :: e :: tail, hreads, by simp, hends.append ['<'] hne, fun u => ?_⟩
  obtain ⟨htake, hdrop⟩ := Text.takeWhile_extend (p := isNameChar) u
    (hends.dropWhile_ne_nil hne rfl)
  refine ⟨e :: tail ++ u, ⟨rfl, ⟨d, hd, halpha⟩, ?_⟩, htake.trans hname.symm⟩
  rw [htake, hdrop]
  exact Tag.readAttributes_extend u hread'

/-- **A step reads the same thing without what comes after it**, if something is left before that.

**Proof sketch.** One case for each thing that a step can read. What it is shows in the next
characters, and these are not the last ones, as they are no closing brackets. -/
theorem step_of_extend (h : (st.extend t).step = .ok (st'.extend t))
    (hbefore : st.cursor.Before st'.cursor) (hends : st'.cursor.rest.EndsInBracket)
    (hne : st'.cursor.rest ≠ []) : st.step = .ok st' := by
  obtain ⟨d, r, hr⟩ := List.exists_cons_of_ne_nil (hbefore.ne_nil_of_ne_nil hne)
  have hends₀ := hbefore.endsInBracket_of_ne_nil hends hne
  rw [hr] at hends₀
  have hrest : (st.extend t).cursor.rest = d :: (r ++ t) := by simp [extend, hr]
  unfold step at h
  rw [hrest] at h
  split at h
  · rename_i hnil
    simp at hnil
  · rename_i s hs
    obtain ⟨rfl, hs⟩ := List.cons.inj hs
    obtain ⟨e, u, rfl, -⟩ := hends₀.exists_cons (by decide)
    obtain ⟨rfl, rfl⟩ : e = '/' ∧ u ++ t = s := by simpa using hs
    rw [← closeElement_of_extend h]
    simp [step, hr]
  · rename_i s hs
    obtain ⟨rfl, hs⟩ := List.cons.inj hs
    obtain ⟨e, u, rfl, hends₁⟩ := hends₀.exists_cons (by decide)
    obtain ⟨rfl, hs⟩ : e = '!' ∧ u ++ t = '-' :: '-' :: s := by simpa using hs
    obtain ⟨f, u, rfl, hends₂⟩ := hends₁.exists_cons (by decide)
    obtain ⟨rfl, hs⟩ : f = '-' ∧ u ++ t = '-' :: s := by simpa using hs
    obtain ⟨g, u, rfl, -⟩ := hends₂.exists_cons (by decide)
    obtain ⟨rfl, rfl⟩ : g = '-' ∧ u ++ t = s := by simpa using hs
    rw [← readComment_of_extend h]
    simp [step, hr]
  · rename_i s hcomment hs
    obtain ⟨rfl, hs⟩ := List.cons.inj hs
    obtain ⟨e, u, rfl, -⟩ := hends₀.exists_cons (by decide)
    obtain ⟨rfl, rfl⟩ : e = '!' ∧ u ++ t = s := by simpa using hs
    rw [← readComment_of_extend h]
    refine step_declaration hr fun v hv => hcomment (v ++ t) ?_
    rw [hv, List.cons_append, List.cons_append]
  · rename_i s hs
    obtain ⟨rfl, -⟩ := List.cons.inj hs
    rw [← readExpression_of_extend h]
    simp [step, hr]
  · rename_i c s hclose hcomment hdeclaration hbrace hs
    obtain ⟨rfl, rfl⟩ := List.cons.inj hs
    split_ifs at h with hmarkup
    · obtain rfl := eq_lt_of_startsMarkup hmarkup
      obtain ⟨e, u, rfl, hends₁⟩ := hends₀.exists_cons (by decide)
      have hmark : ∀ f v, '<' :: e :: u = '<' :: f :: v → f ≠ '/' ∧ f ≠ '!' := by
        intro f v heq
        obtain ⟨rfl, rfl⟩ : e = f ∧ u = v := by simpa using heq
        exact ⟨fun he => hclose (u ++ t) rfl (by rw [he]; rfl),
          fun he => hdeclaration (u ++ t) rfl (by rw [he]; rfl)⟩
      have hstarts : startsMarkup ('<' :: e :: u) = true := by
        rw [← startsMarkup_extend t]
        exact hmarkup
      rw [step_cons hr hbrace hmark, if_pos hstarts]
      exact openElement_of_extend hends₁ h
    · have hstarts : startsMarkup (d :: r) = false := by
        cases r with
        | nil => exact startsMarkup_singleton d
        | cons e u =>
          rw [← startsMarkup_extend t]
          exact Bool.eq_false_iff.2 hmarkup
      obtain ⟨run, hrun⟩ : ∃ run, textRun (r ++ t) = (run, st'.cursor.rest ++ t) :=
        ⟨_, Prod.ext rfl (congrArg (fun st => st.cursor.rest) (Except.ok.inj h))⟩
      have heq : (st.readText d r).extend t = st'.extend t := by
        rw [← Except.ok.inj h]
        simp only [readText, hrun, textRun_of_extend hends hrun]
        rfl
      rw [step_text hr hbrace hstarts, extend_injective heq]

/-- A step of a faithful parse leads on in the source. -/
lemma Faithful.before_of_step {source : Text} (h : st.Faithful source)
    (hne : st.cursor.rest ≠ []) (hstep : st.step = .ok st') : st.cursor.Before st'.cursor :=
  Cursor.In.before_of_length_le h.cursor_in (h.step hstep).cursor_in (step_shorter hne hstep).le

/-- **Some steps read the same things without what comes after them**, if something is left before
that.

**Proof sketch.** Induction on the steps, the last one first: what is left before it is left after
the earlier ones as well. -/
theorem Steps.of_extend {source : Text} (h : (st.extend t).Steps (st'.extend t))
    (hfaithful : (st.extend t).Faithful source) (hends : st'.cursor.rest.EndsInBracket)
    (hne : st'.cursor.rest ≠ []) : st.Steps st' := by
  generalize hd : st'.extend t = d at h
  induction h generalizing st' with
  | refl =>
    rw [extend_injective hd]
    exact .refl
  | @tail b d hsteps hstep ih =>
    subst hd
    obtain ⟨done, stack, cursor⟩ := b
    obtain ⟨c, hc, hbefore⟩ :=
      ((Steps.faithful hsteps hfaithful).before_of_step hstep.1 hstep.2).exists_extend
    obtain rfl : cursor = c.extend t := hc
    have hsame : State.extend t ⟨done, stack, c⟩ = ⟨done, stack, c.extend t⟩ := rfl
    have hne₁ := hbefore.ne_nil_of_ne_nil hne
    have hends₁ := hbefore.endsInBracket_of_ne_nil hends hne
    exact .tail (ih hends₁ hne₁ hsame) ⟨hne₁, step_of_extend hstep.2 hbefore hends hne⟩

end State

end Markup

end OneFile
