import OneFile.Proofs.Markup.Inversion

/-!
# What is read can be read on its own

Whatever source a parse accepts, the parts of the tree that it gives have kept nothing that would
cut them short if they stood alone: names hold nothing that ends a name, text holds neither
braces nor markup, expressions balance in their braces, and a raw body does not hold the close
tag of its element. What stands side by side is another matter, of which nothing is said here.

## Main definitions

* `OneFile.Markup.Node.Legible` — a node whose parts, at any depth, are read to their ends.
* `OneFile.Markup.State.Legible` — a parse that has gathered legible nodes only.

## Main results

* `OneFile.Markup.isPlainText_textRun` — a text run is plain text.
* `OneFile.Markup.Tag.legible_of_readAttributes` — attributes that were read are legible.
* `OneFile.Markup.State.Legible.turn` — a step of a parse adds legible nodes.
* `OneFile.Markup.legible_of_parse` — all nodes that a source is read as are legible.
-/

namespace OneFile.Markup

/-- **A legible node**: each of its parts, at any depth, is read to its end when it stands alone.
Comments are, whatever they say, as nothing is written for them. -/
inductive Node.Legible : Node → Prop
  | text {value : Text} {span : Span} (hvalue : IsPlainText value) : Legible (.text value span)
  | expression {source : Text} {span : Span} (hsource : Brace.Closed source) :
      Legible (.expression source span)
  | comment {value : Text} {span : Span} : Legible (.comment value span)
  | closed {tag : Tag} {span : Span} (htag : tag.Legible) (hclosed : tag.selfClosing = true) :
      Legible (.element tag [] span)
  | raw {tag : Tag} {children : List Node} {span : Span} (htag : tag.Legible)
      (hopen : tag.selfClosing = false) (hraw : isRaw tag.name = true)
      (hbody : IsRawBody tag.name children) : Legible (.element tag children span)
  | element {tag : Tag} {children : List Node} {span : Span} (htag : tag.Legible)
      (hopen : tag.selfClosing = false) (hraw : isRaw tag.name = false)
      (hchildren : ∀ child ∈ children, Legible child) : Legible (.element tag children span)

/-! ### Text -/

/-- **A text run is plain text**, if there is one.

**Proof sketch.** Induction along the run. A bracket is only passed over if no markup starts there,
so what is read after it is no letter, slash or exclamation mark. -/
lemma isPlainText_textRun {s : Text} (hne : (textRun s).1 ≠ []) : IsPlainText (textRun s).1 := by
  suffices h : '{' ∉ (textRun s).1 ∧
      ∀ d : Char, (d.isAlpha = true ∨ d = '/' ∨ d = '!') → ¬ ['<', d] <:+: (textRun s).1 from
    ⟨hne, h.1, h.2⟩
  clear hne
  induction s with
  | nil => simp [textRun]
  | cons c s ih =>
    obtain ⟨hbrace, hmarkup⟩ := ih
    simp only [textRun]
    split_ifs with h
    · simp
    · simp only [Bool.or_eq_true, beq_iff_eq, not_or, Bool.not_eq_true] at h
      obtain ⟨hc, hstarts⟩ := h
      refine ⟨by simp [Ne.symm hc, hbrace], fun d hd hinfix => ?_⟩
      rcases List.infix_cons_iff.1 hinfix with ⟨u, hu⟩ | hinfix
      · simp only [List.cons_append, List.nil_append, List.cons.injEq] at hu
        obtain ⟨rfl, hu⟩ := hu
        obtain ⟨v, rfl⟩ : ∃ v, s = d :: v :=
          ⟨u ++ (textRun s).2, by rw [← List.cons_append, hu, textRun_append]⟩
        rcases hd with hd | rfl | rfl
        · simp [startsMarkup, hd] at hstarts
        · simp [startsMarkup] at hstarts
        · simp [startsMarkup] at hstarts
      · exact hmarkup d hd hinfix

/-! ### Tags -/

/-- No character in the name of an attribute ends it. -/
lemma attributeName_free (s : Text) : ∀ c ∈ (attributeName s).1,
    Text.isSpace c = false ∧ c ∉ ['=', '>', '"', '\'', '\x7b', '<'] := by
  induction s with
  | nil => simp [attributeName]
  | cons c s ih =>
    simp only [attributeName]
    split_ifs with h
    · simp
    · intro d hd
      rcases List.mem_cons.1 hd with rfl | hd
      · simp only [endsName, Bool.or_eq_true, not_or, Bool.not_eq_true] at h
        exact ⟨h.1.1, by simpa using h.1.2⟩
      · exact ih d hd

/-- The expression of an attribute balances in its braces. -/
lemma AttributeValue.closed_of_read {name source : Text} {start : Nat} {c c' : Cursor}
    (h : AttributeValue.read name start c = .ok (.expression source, c')) :
    Brace.Closed source := by
  unfold AttributeValue.read at h
  split at h
  · simp at h
  · split_ifs at h with hquote hbrace
    · split at h <;> simp at h
    · subst hbrace
      split at h
      · simp at h
      · rename_i hinside
        simp only [Except.ok.injEq, Prod.mk.injEq, AttributeValue.expression.injEq] at h
        obtain ⟨rfl, -⟩ := h
        exact Brace.closed_of_inside? hinside
    · simp at h

/-- An attribute that was read is legible. -/
lemma Attribute.legible_of_read {tag : Text} {c c' : Cursor} {a : Attribute}
    (h : Attribute.read tag c = .ok (a, c')) : a.Legible := by
  obtain ⟨name, c₁, hname, h⟩ := Attribute.read_eq_ok_iff.1 h
  have hfree := attributeName_free c.rest
  rw [hname.name_eq] at hfree
  rcases h with ⟨-, -, rfl⟩ | ⟨s, v, -, hv, rfl⟩
  · exact ⟨hname.ne_nil, hfree, by simp⟩
  · refine ⟨hname.ne_nil, hfree, ?_⟩
    rintro source rfl
    exact AttributeValue.closed_of_read hv

/-- **Attributes that were read are legible**, if those read before them are. -/
lemma Tag.legible_of_readAttributes {tag : Text} {start : Nat} {read as : List Attribute}
    {closed : Bool} {c c' : Cursor} (hbefore : ∀ a ∈ read, a.Legible)
    (h : Tag.readAttributes tag start read c = .ok (as, closed, c')) : ∀ a ∈ as, a.Legible := by
  fun_induction Tag.readAttributes tag start read c with
  | case1 => simp at h
  | case2 =>
    simp only [Except.ok.injEq, Prod.mk.injEq] at h
    simpa [← h.1] using hbefore
  | case3 =>
    simp only [Except.ok.injEq, Prod.mk.injEq] at h
    simpa [← h.1] using hbefore
  | case4 => simp at h
  | case5 read c c₁ a c₂ hread _ _ _ ih =>
    refine ih ?_ h
    intro a' ha'
    rcases List.mem_cons.1 ha' with rfl | ha'
    · exact Attribute.legible_of_read hread
    · exact hbefore a' ha'

/-- A letter can stand in the name of an element. -/
lemma isElementName_takeWhile {s : Text} (h : ∃ d ∈ s.head?, d.isAlpha = true) :
    IsElementName (s.takeWhile isNameChar) := by
  obtain ⟨d, hd, halpha⟩ := h
  obtain ⟨t, rfl⟩ := List.head?_eq_some_iff.1 hd
  have hchar : isNameChar d = true := by simp [isNameChar, Char.isAlphanum, halpha]
  exact ⟨⟨d, by simp [hchar], halpha⟩, List.all_eq_true.1 List.all_takeWhile⟩

namespace State

variable {st st' : State}

/-- An opening tag that was read is legible. -/
lemma ReadsTag.legible {s : Text} {attributes : List Attribute} {closed : Bool} {c : Cursor}
    (h : st.ReadsTag s attributes closed c) {selfClosing : Bool}
    (hvoid : isVoid (s.takeWhile isNameChar) = true → selfClosing = true) :
    Tag.Legible ⟨s.takeWhile isNameChar, attributes, selfClosing⟩ :=
  ⟨isElementName_takeWhile h.letter, hvoid, Tag.legible_of_readAttributes (by simp) h.read⟩

/-- A raw body that was read does not hold the start of the close tag. -/
lemma isRawBody_of_readRaw {name : Text} {start : Nat} {c c' : Cursor} {children : List Node}
    (h : readRaw name start c = .ok (children, c')) : IsRawBody name children := by
  obtain ⟨body, after, rest, hfound, -, rfl, -⟩ := readRaw_eq_ok_iff.1 h
  unfold rawNodes
  split_ifs with hempty
  · exact .inl rfl
  · exact .inr ⟨body, _, rfl, by simpa using hempty,
      Text.not_infix_of_breakOn (by simp) hfound⟩

/-! ### Steps and runs -/

/-- **A parse that has gathered legible nodes only**, and whose open elements have legible tags. -/
structure Legible (st : State) : Prop where
  done : ∀ node ∈ st.done, node.Legible
  tags : ∀ frame ∈ st.stack, frame.tag.Legible ∧ frame.tag.selfClosing = false
  before : ∀ frame ∈ st.stack, ∀ node ∈ frame.before, node.Legible
  none_raw : st.NoneRaw

/-- A legible node is added. -/
lemma Legible.push {node : Node} {c : Cursor} (h : st.Legible) (hnode : node.Legible) :
    (st.push node c).Legible where
  done := by
    intro n hn
    rcases List.mem_cons.1 hn with rfl | hn
    · exact hnode
    · exact h.done n hn
  tags := h.tags
  before := h.before
  none_raw := h.none_raw

/-- **A step adds legible nodes.** -/
lemma Legible.turn (h : st.Legible) (hturn : st.Turn st') : st'.Legible := by
  have hraw := h.none_raw.turn hturn
  cases hturn with
  | @text c s hrest hbrace hmarkup =>
    have hrun : textRun (c :: s) = (c :: (textRun s).1, (textRun s).2) := by
      simp [textRun, hbrace, hmarkup]
    have hplain : IsPlainText (textRun (c :: s)).1 := isPlainText_textRun (by simp [hrun])
    rw [hrun] at hplain
    exact h.push (.text hplain)
  | expression hrest hinside =>
    rw [hrest] at hinside
    exact h.push (.expression (Brace.closed_of_inside? hinside))
  | comment => exact h.push .comment
  | closed htag => exact h.push (.closed (htag.legible fun _ => rfl) rfl)
  | raw htag hvoid hname hbody =>
    exact h.push (.raw (htag.legible (by simp [hvoid])) rfl hname (isRawBody_of_readRaw hbody))
  | opened htag hvoid =>
    refine ⟨by simp, fun frame hframe => ?_, fun frame hframe => ?_, hraw⟩
    · rcases List.mem_cons.1 hframe with rfl | hframe
      · exact ⟨htag.legible (by simp [hvoid]), rfl⟩
      · exact h.tags frame hframe
    · rcases List.mem_cons.1 hframe with rfl | hframe
      · exact h.done
      · exact h.before frame hframe
  | @close frame stack _ _ hstack =>
    have hframe : frame ∈ st.stack := by simp [hstack]
    have hbelow : ∀ outer ∈ stack, outer ∈ st.stack := by simp +contextual [hstack]
    refine ⟨fun node hnode => ?_, fun outer houter => h.tags outer (hbelow outer houter),
      fun outer houter => h.before outer (hbelow outer houter), hraw⟩
    rcases List.mem_cons.1 hnode with rfl | hnode
    · obtain ⟨htag, hopen⟩ := h.tags frame hframe
      exact .element htag hopen (h.none_raw frame hframe)
        fun child hchild => h.done child (List.mem_reverse.1 hchild)
    · exact h.before frame hframe node hnode

/-- Steps add legible nodes. -/
lemma Legible.steps (h : st.Legible) (hsteps : st.Steps st') : st'.Legible := by
  induction hsteps with
  | refl => exact h
  | tail _ hstep ih => exact ih.turn (turn_of_step hstep.1 hstep.2)

end State

/-- **All nodes that a source is read as are legible.** -/
theorem legible_of_parse {source : Text} {document : Document}
    (h : parse source = .ok document) : ∀ node ∈ document.nodes, node.Legible := by
  have hstart : State.Legible ⟨[], [], ⟨source, 0⟩⟩ :=
    ⟨by simp, by simp, by simp, by simp [State.NoneRaw]⟩
  have hend := (hstart.steps (State.steps_of_parse h)).done
  intro node hnode
  exact hend node (List.mem_reverse.2 hnode)

end OneFile.Markup
