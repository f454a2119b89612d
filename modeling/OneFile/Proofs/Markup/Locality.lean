import OneFile.Proofs.Markup.RoundTrip

/-!
# Reading looks no further than it must

What is read at the start of a source stays the same when more text is put behind the source.
The readers of markup look ahead: they search for closing marks, they run up to the next bracket
and they decide by the next two characters. So each of them is looked at with a text `t` behind
all that is left, and the lemma about it says how much must be left for `t` to make no
difference: nothing after a closing mark, one character after a run that the end of the source
could have cut short.

## Main definitions

* `OneFile.Cursor.extend`, `OneFile.Markup.State.extend` — the same place with more text behind it.

## Main results

* `OneFile.Markup.Tag.readAttributes_extend` — an opening tag stays as it is.
* `OneFile.Markup.State.step_extend` — so does what one step of a parse reads, but for a text that
  reaches up to the end.
-/

namespace OneFile

namespace Cursor

/-- The same place, with `t` behind all that is left. -/
def extend (t : Text) (c : Cursor) : Cursor := ⟨c.rest ++ t, c.offset⟩

variable {c : Cursor}

/-- A cursor that is extended has more text before it. -/
@[simp] lemma rest_extend (t : Text) (c : Cursor) : (c.extend t).rest = c.rest ++ t := rfl

/-- It is where it was. -/
@[simp] lemma offset_extend (t : Text) (c : Cursor) : (c.extend t).offset = c.offset := rfl

/-- Separators are skipped as before, if something is left after them. -/
lemma skipSpaces_extend (t : Text) (hne : c.skipSpaces.rest ≠ []) :
    (c.extend t).skipSpaces = c.skipSpaces.extend t := by
  obtain ⟨htake, hdrop⟩ := Text.takeWhile_extend t hne
  simp only [skipSpaces, skipWhile, rest_extend, htake, hdrop]
  rfl

/-- Nothing is left after the separators where nothing is left before them. -/
lemma rest_ne_nil_of_skipSpaces (hne : c.skipSpaces.rest ≠ []) : c.rest ≠ [] := by
  rintro hrest
  exact hne (by simp [skipSpaces, skipWhile, hrest])

end Cursor

namespace Markup

variable (t : Text)

/-! ### Braces -/

/-- A braced expression is read as before. -/
lemma Brace.inside?_extend {s source after : Text} (h : Brace.inside? s = some (source, after)) :
    Brace.inside? (s ++ t) = some (source, after ++ t) := by
  obtain ⟨hscan, whole, rfl, rfl⟩ := Brace.inside?_eq_some_iff.1 h
  exact Brace.inside?_eq_some_iff.2
    ⟨Brace.afterClosing?_append t hscan, whole, List.append_assoc .., rfl⟩

/-! ### Attributes -/

/-- The name of an attribute is a run of characters. -/
lemma attributeName_eq_upTo (s : Text) : attributeName s = Text.upTo endsName s := by
  induction s with
  | nil => rfl
  | cons c s ih => rw [attributeName, Text.upTo, ih]

/-- A name that ends before the end of the source is read as before. -/
lemma attributeName_extend {s : Text} (hne : (attributeName s).2 ≠ []) :
    attributeName (s ++ t) = ((attributeName s).1, (attributeName s).2 ++ t) := by
  simp only [attributeName_eq_upTo] at hne ⊢
  refine Text.upTo_extend (fun c hc => ?_) (fun c d u => by simp [endsName]) hne
  simp only [endsName, Bool.or_eq_true] at hc ⊢
  exact .inl (by simpa using hc)

/-- Whether a bare value ends before this character. -/
def endsValue (c : Char) (s : Text) : Bool :=
  Text.isSpace c || c == '>' || (c == '/' && s.head? == some '>')

/-- A bare value is a run of characters. -/
lemma bareValue_eq_upTo (s : Text) : bareValue s = Text.upTo endsValue s := by
  induction s with
  | nil => rfl
  | cons c s ih => rw [bareValue, Text.upTo, ih, endsValue]

/-- A bare value that ends before the end of the source is read as before. -/
lemma bareValue_extend {s : Text} (hne : (bareValue s).2 ≠ []) :
    bareValue (s ++ t) = ((bareValue s).1, (bareValue s).2 ++ t) := by
  simp only [bareValue_eq_upTo] at hne ⊢
  refine Text.upTo_extend (fun c hc => ?_) (fun c d u => by simp [endsValue]) hne
  simp only [endsValue, Bool.or_eq_true] at hc ⊢
  exact .inl (by simpa using hc)

/-- A value that ends before the end of the source is read as before. -/
lemma AttributeValue.read_extend {name : Text} {start : Nat} {c c' : Cursor} {v : AttributeValue}
    (h : AttributeValue.read name start c = .ok (v, c')) (hne : c'.rest ≠ []) :
    AttributeValue.read name start (c.extend t) = .ok (v, c'.extend t) := by
  obtain ⟨rest, offset⟩ := c
  unfold AttributeValue.read at h ⊢
  cases rest with
  | nil => simp at h
  | cons d s =>
    simp only [Cursor.extend, List.cons_append] at h ⊢
    split_ifs at h ⊢ with hquote hbrace
    · split at h
      · simp at h
      · rename_i value after hfound
        simp only [Except.ok.injEq, Prod.mk.injEq] at h
        obtain ⟨rfl, rfl⟩ := h
        rw [Text.breakOn_extend t hfound]
        rfl
    · split at h
      · simp at h
      · rename_i source after hinside
        simp only [Except.ok.injEq, Prod.mk.injEq] at h
        obtain ⟨rfl, rfl⟩ := h
        have hinside' := Brace.inside?_extend t hinside
        rw [List.cons_append] at hinside'
        rw [hinside']
    · simp only [Except.ok.injEq, Prod.mk.injEq] at h
      obtain ⟨rfl, rfl⟩ := h
      have hbare := bareValue_extend t hne
      rw [List.cons_append] at hbare
      rw [hbare]
      rfl

/-- **An attribute is read as before**, if the tag goes on after it: an equals sign and a value
may follow its name. -/
lemma Attribute.read_extend {tag : Text} {c c' : Cursor} {a : Attribute}
    (h : Attribute.read tag c = .ok (a, c')) (hne : c'.skipSpaces.rest ≠ []) :
    Attribute.read tag (c.extend t) = .ok (a, c'.extend t) := by
  simp only [Attribute.read] at h ⊢
  split_ifs at h with hempty
  -- both ways to read on leave something after the name and the blanks
  have hafter : (c.advance (attributeName c.rest).1 (attributeName c.rest).2).skipSpaces.rest ≠
      [] := by
    split at h
    · rename_i s hs
      simp [hs]
    · simp only [Except.ok.injEq, Prod.mk.injEq] at h
      rw [h.2]
      exact hne
  have hname := attributeName_extend t (Cursor.rest_ne_nil_of_skipSpaces hafter)
  have hskip := Cursor.skipSpaces_extend t hafter
  rw [Cursor.rest_extend, hname, if_neg hempty]
  have hadvance : (c.extend t).advance (attributeName c.rest).1 ((attributeName c.rest).2 ++ t) =
      (c.advance (attributeName c.rest).1 (attributeName c.rest).2).extend t := rfl
  simp only [hadvance, hskip]
  generalize c.advance (attributeName c.rest).1 (attributeName c.rest).2 = c₁ at h hafter ⊢
  split at h
  · rename_i s hs
    split at h
    · simp at h
    · rename_i v c₂ hv
      simp only [Except.ok.injEq, Prod.mk.injEq] at h
      obtain ⟨rfl, rfl⟩ := h
      have hvalue : (Cursor.skipSpaces ⟨s, c₁.skipSpaces.offset + 1⟩).rest ≠ [] := by
        intro hnil
        simp [AttributeValue.read, hnil] at hv
      have hskip' := Cursor.skipSpaces_extend t hvalue
      have hread := AttributeValue.read_extend t hv (Cursor.rest_ne_nil_of_skipSpaces hne)
      rw [← hskip'] at hread
      simp only [Cursor.rest_extend, hs, List.cons_append, Cursor.offset_extend]
      simp only [Cursor.extend] at hread ⊢
      rw [hread]
  · rename_i hother
    simp only [Except.ok.injEq, Prod.mk.injEq] at h
    obtain ⟨rfl, rfl⟩ := h
    obtain ⟨d, s, hs⟩ := List.exists_cons_of_ne_nil hafter
    have hequals : d ≠ '=' := fun heq => hother s (by rw [hs, heq])
    simp only [Cursor.rest_extend, hs, List.cons_append]
    split
    · rename_i u heq
      exact absurd (by simpa using congrArg List.head? heq) hequals
    · rfl

/-- A tag that is read to its end has a closing mark, after the blanks or further on. -/
lemma Tag.readAttributes_ne_nil {tag : Text} {start : Nat} {read as : List Attribute}
    {closed : Bool} {c c' : Cursor}
    (h : Tag.readAttributes tag start read c = .ok (as, closed, c')) : c.skipSpaces.rest ≠ [] := by
  intro hnil
  rw [Tag.readAttributes] at h
  simp [hnil] at h

/-- **An opening tag is read as before.** It ends at a closing mark, and every attribute is
followed by something, if only by that mark.

**Proof sketch.** Induction along the reading of attributes. A slash that `t` would complete to a
closing mark cannot be all that is left: it would be read as a name, and the tag would not be read
to its end. -/
lemma Tag.readAttributes_extend {tag : Text} {start : Nat} {read as : List Attribute}
    {closed : Bool} {c c' : Cursor}
    (h : Tag.readAttributes tag start read c = .ok (as, closed, c')) :
    Tag.readAttributes tag start read (c.extend t) = .ok (as, closed, c'.extend t) := by
  have hskip := Cursor.skipSpaces_extend t (Tag.readAttributes_ne_nil h)
  fun_induction Tag.readAttributes tag start read c with
  | case1 => simp at h
  | case2 read c c₁ s hs =>
    simp only [Except.ok.injEq, Prod.mk.injEq] at h
    obtain ⟨rfl, rfl, rfl⟩ := h
    have hs' : c.skipSpaces.rest = '>' :: s := hs
    rw [Tag.readAttributes, hskip]
    simp [hs', Cursor.extend, c₁]
  | case3 read c c₁ s hs =>
    simp only [Except.ok.injEq, Prod.mk.injEq] at h
    obtain ⟨rfl, rfl, rfl⟩ := h
    have hs' : c.skipSpaces.rest = '/' :: '>' :: s := hs
    rw [Tag.readAttributes, hskip]
    simp [hs', Cursor.extend, c₁]
  | case4 => simp at h
  | case5 read c c₁ a c₂ hread _ hopen hclosed ih =>
    have hne := Tag.readAttributes_ne_nil h
    have hread' := Attribute.read_extend t hread hne
    obtain ⟨d, e, u, hrest⟩ : ∃ d e u, c₁.rest = d :: e :: u := by
      have hpos := List.length_pos_iff.2 (Cursor.rest_ne_nil_of_skipSpaces hne)
      have hshorter := Attribute.read_shorter hread
      obtain ⟨d, v, hv⟩ := List.exists_cons_of_length_pos (hpos.trans hshorter)
      have hlong : 0 < v.length := by
        rw [hv, List.length_cons] at hshorter
        omega
      obtain ⟨e, u, rfl⟩ := List.exists_cons_of_length_pos hlong
      exact ⟨d, e, u, hv⟩
    have hend : ∀ s, (c₁.extend t).rest ≠ '>' :: s ∧ (c₁.extend t).rest ≠ '/' :: '>' :: s := by
      intro s
      simp only [Cursor.rest_extend, hrest, List.cons_append, ne_eq, List.cons.injEq]
      constructor
      · rintro ⟨rfl, -⟩
        exact hopen _ hrest
      · rintro ⟨rfl, rfl, -⟩
        exact hclosed _ hrest
    rw [Tag.readAttributes_of_read hskip hend hread', ih h (Cursor.skipSpaces_extend t hne)]

/-! ### Text -/

/-- Text is a run of characters. -/
lemma textRun_eq_upTo (s : Text) :
    textRun s = Text.upTo (fun c u => c == '{' || startsMarkup (c :: u)) s := by
  induction s with
  | nil => rfl
  | cons c s ih => rw [textRun, Text.upTo, ih]

/-- Whether markup starts is decided by two characters. -/
lemma startsMarkup_extend (c d : Char) (u : Text) :
    startsMarkup (c :: d :: u ++ t) = startsMarkup (c :: d :: u) := by
  by_cases hc : c = '<'
  · subst hc
    rfl
  · simp [startsMarkup, hc]

/-- No markup starts at the last character of a source. -/
lemma startsMarkup_singleton (c : Char) : startsMarkup [c] = false := by
  unfold startsMarkup
  split
  · rename_i d u heq
    simp at heq
  · rfl

/-- Nor does it when text ends after that character. -/
lemma startsMarkup_cons_of_ends {t : Text} (ht : TextEnds t) (c : Char) :
    startsMarkup (c :: t) = false := by
  refine startsMarkup_append_eq_false (s := []) (fun d _ hinfix => ?_) ht
  have hlength := hinfix.length_le
  simp at hlength

/-- **Text is read as before** if it ends before the end of the source, or if it would end before
what is put there. -/
lemma textRun_extend {s : Text} (h : (textRun s).2 = [] → TextEnds t) :
    textRun (s ++ t) = ((textRun s).1, (textRun s).2 ++ t) := by
  by_cases hne : (textRun s).2 = []
  · have ht := h hne
    rw [hne, List.nil_append]
    have hs : (textRun s).1 = s := by simpa [hne] using textRun_append s
    rw [hs]
    clear h hs
    induction s with
    | nil =>
      have happend := textRun_append t
      rw [ht, List.nil_append] at happend
      exact Prod.ext ht happend
    | cons c s ih =>
      simp only [textRun, List.cons_append] at hne ⊢
      have hends : startsMarkup (c :: (s ++ t)) = startsMarkup (c :: s) := by
        cases s with
        | nil => rw [List.nil_append, startsMarkup_cons_of_ends ht, startsMarkup_singleton]
        | cons d s => exact startsMarkup_extend t c d s
      rw [hends]
      split_ifs at hne ⊢ with hstop
      rw [ih hne]
  · simp only [textRun_eq_upTo] at hne ⊢
    refine Text.upTo_extend (fun c hc => ?_) (fun c d u => ?_) hne
    · simp only [startsMarkup_singleton, Bool.or_false] at hc
      simp [hc]
    · have hstarts := startsMarkup_extend t c d u
      rw [List.cons_append] at hstarts
      rw [hstarts]

/-! ### One step of a parse -/

namespace State

/-- The same parse, with `t` behind all that is left to read. -/
def extend (st : State) : State := { st with cursor := st.cursor.extend t }

variable {st st' : State}

/-- A braced expression is read as before. -/
lemma readExpression_extend (h : st.readExpression = .ok st') :
    (st.extend t).readExpression = .ok (st'.extend t) := by
  simp only [readExpression] at h ⊢
  split at h
  · simp at h
  · rename_i source after hinside
    simp only [Except.ok.injEq] at h
    subst h
    have hinside' := Brace.inside?_extend t hinside
    simp only [extend, Cursor.rest_extend, hinside']
    rfl

/-- A comment is read as before. -/
lemma readComment_extend {opening closing body : Text}
    (h : st.readComment opening closing body = .ok st') :
    (st.extend t).readComment opening closing (body ++ t) = .ok (st'.extend t) := by
  simp only [readComment] at h ⊢
  split at h
  · simp at h
  · rename_i value after hfound
    simp only [Except.ok.injEq] at h
    subst h
    rw [Text.breakOn_extend t hfound]
    rfl

/-- A raw body is read as before: the first start of its close tag stays the first one. -/
lemma readRaw_extend {name : Text} {start : Nat} {c c' : Cursor} {children : List Node}
    (h : readRaw name start c = .ok (children, c')) :
    readRaw name start (c.extend t) = .ok (children, c'.extend t) := by
  simp only [readRaw] at h ⊢
  split at h
  · simp at h
  · rename_i body after hfound
    split at h
    · rename_i s hs
      simp only [Except.ok.injEq, Prod.mk.injEq] at h
      obtain ⟨rfl, rfl⟩ := h
      have hskip := Cursor.skipSpaces_extend (c := ⟨after, c.offset + body.size + 2 + name.size⟩) t
        (by simp [hs])
      simp only [Cursor.extend] at hskip
      simp only [Cursor.rest_extend, Cursor.offset_extend, Text.breakOn_extend t hfound, hskip, hs,
        List.cons_append]
      rfl
    · simp at h

/-- An opening tag is read as before, with the raw body after it if there is one. -/
lemma openElement_extend {s : Text} (h : st.openElement s = .ok st') :
    (st.extend t).openElement (s ++ t) = .ok (st'.extend t) := by
  simp only [openElement] at h
  split at h
  · simp at h
  · rename_i attributes closed c hread
    have hname : s.dropWhile isNameChar ≠ [] :=
      Cursor.rest_ne_nil_of_skipSpaces (Tag.readAttributes_ne_nil hread)
    obtain ⟨htake, hdrop⟩ := Text.takeWhile_extend t hname
    have hread' := Tag.readAttributes_extend t hread
    simp only [openElement, htake, hdrop]
    simp only [Cursor.extend] at hread'
    simp only [extend, Cursor.offset_extend, hread']
    split_ifs at h ⊢ with hclosed hraw
    · simp only [Except.ok.injEq] at h
      subst h
      rfl
    · split at h
      · simp at h
      · rename_i children c' hbody
        simp only [Except.ok.injEq] at h
        subst h
        have hbody' := readRaw_extend t hbody
        simp only [Cursor.extend] at hbody'
        rw [hbody']
        rfl
    · simp only [Except.ok.injEq] at h
      subst h
      rfl

/-- A close tag is read as before. -/
lemma closeElement_extend {s : Text} (h : st.closeElement s = .ok st') :
    (st.extend t).closeElement (s ++ t) = .ok (st'.extend t) := by
  simp only [closeElement] at h
  split at h
  · rename_i after hafter
    have hskip : (Cursor.skipSpaces ⟨s.dropWhile isNameChar,
        st.cursor.offset + 2 + Text.size (s.takeWhile isNameChar)⟩).rest ≠ [] := by
      rw [hafter]
      simp
    have hskip' := Cursor.skipSpaces_extend t hskip
    obtain ⟨htake, hdrop⟩ := Text.takeWhile_extend t (Cursor.rest_ne_nil_of_skipSpaces hskip)
    simp only [Cursor.extend] at hskip'
    simp only [closeElement, htake, hdrop, extend, Cursor.offset_extend, hskip', hafter,
      List.cons_append]
    split at h
    · simp at h
    · rename_i frame stack hstack
      split_ifs at h with hname
      simp only [Except.ok.injEq] at h
      subst h
      simp [hname, Cursor.extend]
  · simp at h

/-- Where a declaration starts that is no comment, the step reads it. -/
lemma step_declaration {s : Text} (hrest : st.cursor.rest = '<' :: '!' :: s)
    (hdashes : ∀ u, s ≠ '-' :: '-' :: u) :
    st.step = st.readComment "<!".toList ">".toList s := by
  unfold step
  rw [hrest]
  split
  · rename_i heq
    simp at heq
  · rename_i heq
    simp at heq
  · rename_i u heq
    exact absurd (by simpa using heq) (hdashes u)
  · rename_i u _ heq
    obtain rfl : s = u := by simpa using heq
    rfl
  · rename_i heq
    simp at heq
  · rename_i d u _ _ hother _ heq
    simp only [List.cons.injEq] at heq
    exact absurd heq.2.symm (hother s heq.1.symm)

/-- **A step reads the same thing as before**, unless it reads a text up to the end of the source
and that text would not end there.

**Proof sketch.** One case for each thing that a step can read. What it is shows in the next
characters: a declaration does not turn into a comment, because its closing bracket is among what
is left, and neither does a last character turn into markup, because text ends after it. -/
theorem step_extend (hne : st.cursor.rest ≠ []) (hstep : st.step = .ok st')
    (hends : st'.cursor.rest = [] → (∃ node ∈ st'.done.head?, node.isText = true) → TextEnds t) :
    (st.extend t).step = .ok (st'.extend t) := by
  unfold step at hstep
  split at hstep
  · contradiction
  · rename_i s hs
    rw [← closeElement_extend t hstep]
    simp [step, extend, hs]
  · rename_i s hs
    rw [← readComment_extend t hstep]
    simp [step, extend, hs]
  · rename_i s hcomment hs
    rw [← readComment_extend t hstep]
    refine step_declaration (by simp [extend, hs]) fun u hu => ?_
    simp only [readComment] at hstep
    split at hstep
    · simp at hstep
    · rename_i value after hfound
      have hclose : '>' ∈ s := by simp [Text.breakOn_eq_some hfound]
      cases s with
      | nil => simp at hclose
      | cons d s =>
        cases s with
        | nil =>
          obtain rfl : '>' = d := List.mem_singleton.1 hclose
          simp at hu
        | cons e s =>
          simp only [List.cons_append, List.cons.injEq] at hu
          obtain ⟨rfl, rfl, -⟩ := hu
          exact hcomment _ rfl
  · rename_i s hs
    rw [← readExpression_extend t hstep]
    simp [step, extend, hs]
  · rename_i d s hclose _ hdeclaration hbrace hs
    have hs' : (st.extend t).cursor.rest = d :: (s ++ t) := by simp [extend, hs]
    split_ifs at hstep with hmarkup
    · obtain rfl := eq_lt_of_startsMarkup hmarkup
      cases s with
      | nil => simp [startsMarkup_singleton] at hmarkup
      | cons e s =>
        have hmark : ∀ f u, '<' :: (e :: s ++ t) = '<' :: f :: u → f ≠ '/' ∧ f ≠ '!' := by
          intro f u heq
          obtain rfl : e = f := by simpa using congrArg (List.head? ∘ List.tail) heq
          exact ⟨fun he => hclose s rfl (by rw [he]), fun he => hdeclaration s rfl (by rw [he])⟩
        have hstarts : startsMarkup ('<' :: (e :: s ++ t)) = true := by
          rw [← hmarkup]
          exact startsMarkup_extend t '<' e s
        rw [step_cons hs' hbrace hmark, if_pos hstarts, openElement_extend t hstep]
    · simp only [Except.ok.injEq] at hstep
      subst hstep
      have hrun := textRun_extend t (s := s) fun hrest => hends hrest ⟨_, rfl, rfl⟩
      have hstarts : startsMarkup (d :: (s ++ t)) = false := by
        cases s with
        | nil => exact startsMarkup_cons_of_ends (hends rfl ⟨_, rfl, rfl⟩) d
        | cons e s =>
          rw [← Bool.eq_false_iff.2 hmarkup]
          exact startsMarkup_extend t d e s
      rw [step_text hs' hbrace hstarts]
      simp only [readText, hrun]
      rfl

end State

end Markup

end OneFile
