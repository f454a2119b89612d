import Mathlib.Data.List.Infix
import OneFile.Proofs.Markup.WellFormed

/-!
# Reading what was written

A well-formed tree, written as text and read again, comes back.

## Main definitions

* `OneFile.Markup.EndsName` — where the name of an attribute ends.
* `OneFile.Markup.FollowsAttribute` — what can follow an attribute in a tag.
* `OneFile.Markup.State.ReadsBack` — a node that is read from its text.

## Main results

* `OneFile.Markup.Attribute.read_render` — an attribute is read from its text.
* `OneFile.Markup.Tag.readAttributes_render` — the attributes of a tag are.
* `OneFile.Markup.State.run_renderAll_of_apart` — nodes are, in the middle of a parse, if each one
  is on its own and no two texts are neighbours.
* `OneFile.Markup.parse_renderAll` — trees are, up to spans, if their values are readable.

## Design

Each lemma is about a text that is followed by anything that may follow it, and says that just
this is left. Places are not tracked: what is read is compared up to spans only.
-/

namespace OneFile

namespace Cursor

/-- Separators before another character are skipped. -/
lemma skipSpaces_append (gap : Text) {s : Text} {offset : Nat} (hgap : gap.all Text.isSpace)
    (hs : s.head?.any Text.isSpace = false) :
    Cursor.skipSpaces ⟨gap ++ s, offset⟩ = ⟨s, offset + gap.size⟩ := by
  have hall : ∀ c ∈ gap, Text.isSpace c = true := by simpa using hgap
  rw [skipSpaces, skipWhile, Text.takeWhile_append_of_stop hall hs,
    Text.dropWhile_append_of_stop hall hs, advance]

/-- Nothing is skipped before another character. -/
lemma skipSpaces_cons {c : Char} {s : Text} {offset : Nat} (hc : Text.isSpace c = false) :
    Cursor.skipSpaces ⟨c :: s, offset⟩ = ⟨c :: s, offset⟩ :=
  skipSpaces_append [] rfl (by simp [hc])

end Cursor

namespace Markup

/-! ### Attributes -/

/-- The name of an attribute ends here. -/
def EndsName (s : Text) : Prop := ∃ c t, s = c :: t ∧ endsName c t = true

/-- A name is read to its end, if that is not a slash before the bracket of the tag. -/
lemma attributeName_append_of_ends {name t : Text} (hne : name ≠ [])
    (hfree : ∀ c ∈ name, Text.isSpace c = false ∧ c ∉ ['=', '>', '"', '\'', '\x7b', '<'])
    (hlast : name.getLast? = some '/' → t.head? ≠ some '>') (ht : EndsName t) :
    attributeName (name ++ t) = (name, t) := by
  obtain ⟨d, u, rfl, hd⟩ := ht
  induction name with
  | nil => exact absurd rfl hne
  | cons c name ih =>
    have hc := hfree c (by simp)
    cases name with
    | nil =>
      have hslash : c = '/' → d ≠ '>' := by simpa using hlast
      have hends : endsName c (d :: u) = false := by simpa [endsName, hc] using hslash
      simp [attributeName, hends, hd]
    | cons c' name =>
      have hbracket : c' ≠ '>' := fun h => (hfree c' (by simp)).2 (by simp [h])
      have hends : endsName c (c' :: (name ++ d :: u)) = false := by
        simp [endsName, hc, hbracket]
      have hrest := ih (by simp) (fun e he => hfree e (by simp [he])) (by simpa using hlast)
      simp only [List.cons_append] at hrest ⊢
      rw [attributeName, hends]
      simp [hrest]

/-- What can follow an attribute in a tag: a blank or a bracket, and no equals sign after the
blanks. -/
def FollowsAttribute (t : Text) : Prop :=
  (∃ c s, t = c :: s ∧ (c = ' ' ∨ c = '>')) ∧ (t.dropWhile Text.isSpace).head? ≠ some '='

/-- The value that is written after an equals sign is read to its end. -/
lemma AttributeValue.read_render (name t : Text) (start offset : Nat) {w : Text}
    {v : AttributeValue} (hv : ∀ source, v = .expression source → Brace.Closed source)
    (hw : v.render = '=' :: w) :
    ∃ offset', AttributeValue.read name start ⟨w ++ t, offset⟩ = .ok (v.reread, ⟨t, offset'⟩) := by
  cases v with
  | empty => simp [AttributeValue.render] at hw
  | expression source =>
    obtain rfl : braced source = w := by simpa [AttributeValue.render] using hw
    have hinside := (hv source rfl).inside?_braced_append t
    refine ⟨offset + source.size + 2, ?_⟩
    simp only [braced, List.cons_append] at hinside ⊢
    simp only [AttributeValue.read, hinside, AttributeValue.reread]
    rfl
  | text parts =>
    obtain rfl : quoted (parts.flatMap ValuePart.render) = w := by
      simpa [AttributeValue.render] using hw
    obtain ⟨quote, hquote, hfree, heq⟩ := exists_quoted_eq (parts.flatMap ValuePart.render)
    have hnone : ¬ [quote] <:+: betweenQuotes (parts.flatMap ValuePart.render) := by
      rwa [List.singleton_infix_iff]
    have hbreak := Text.breakOn_append t (by simp) hnone
    simp only [List.nil_append] at hbreak
    rw [heq]
    simp only [List.cons_append, List.append_assoc, List.nil_append, AttributeValue.read]
    rw [if_pos hquote, hbreak]
    exact ⟨_, rfl⟩

/-- A value that is written with an equals sign goes on with a quote or a brace. -/
lemma AttributeValue.render_head {v : AttributeValue} (hv : v ≠ .empty) :
    ∃ c w, v.render = '=' :: c :: w ∧ Text.isSpace c = false := by
  cases v with
  | empty => exact absurd rfl hv
  | expression source => exact ⟨_, _, rfl, rfl⟩
  | text parts =>
    obtain ⟨quote, hquote, -, heq⟩ := exists_quoted_eq (parts.flatMap ValuePart.render)
    refine ⟨quote, _, by rw [AttributeValue.render, heq]; rfl, ?_⟩
    rcases hquote with rfl | rfl <;> rfl

/-- **An attribute is read from its text**, up to its span and with its value reread. -/
lemma Attribute.read_render (tag : Text) {t : Text} (offset : Nat) {a : Attribute}
    (ha : a.Legible) (ht : FollowsAttribute t)
    (hslash : a.value = .empty → a.name.getLast? = some '/' → t.head? ≠ some '>') :
    ∃ span offset', Attribute.read tag ⟨a.render ++ t, offset⟩ =
      .ok (⟨a.name, a.value.reread, span⟩, ⟨t, offset'⟩) := by
  obtain ⟨hne, hfree, hexpression⟩ := ha
  obtain ⟨⟨c, s, rfl, hc⟩, hequals⟩ := ht
  by_cases hempty : a.value = .empty
  · have hread : attributeName (a.name ++ c :: s) = (a.name, c :: s) := by
      refine attributeName_append_of_ends hne hfree (hslash hempty) ⟨c, s, rfl, ?_⟩
      rcases hc with rfl | rfl <;> rfl
    have hrender : a.render = a.name := by
      simp [Attribute.render, hempty, AttributeValue.render]
    rw [hrender]
    simp only [Attribute.read, hread, hempty, AttributeValue.reread]
    rw [if_neg (by simpa using hne)]
    split
    · rename_i u hu
      exact absurd (congrArg List.head? hu) hequals
    · exact ⟨_, _, rfl⟩
  · obtain ⟨d, w, hw, hd⟩ := AttributeValue.render_head hempty
    have hread : attributeName (a.name ++ '=' :: (d :: w ++ c :: s)) =
        (a.name, '=' :: (d :: w ++ c :: s)) :=
      attributeName_append_of_ends hne hfree (by simp) ⟨_, _, rfl, rfl⟩
    have hrender : a.render ++ c :: s = a.name ++ '=' :: (d :: w ++ c :: s) := by
      rw [Attribute.render, hw, List.append_assoc]
      rfl
    obtain ⟨offset', hvalue⟩ := AttributeValue.read_render a.name (c :: s) offset
      (offset + a.name.size + 1) hexpression hw
    rw [hrender]
    simp only [Attribute.read, hread, Cursor.advance]
    rw [if_neg (by simpa using hne), Cursor.skipSpaces_cons rfl]
    simp only [List.cons_append] at hvalue ⊢
    rw [Cursor.skipSpaces_cons hd, hvalue]
    exact ⟨_, _, rfl⟩

/-- What is written at the end of an opening tag. -/
def tagEnd (closed : Bool) : Text := if closed then " />".toList else ">".toList

/-- Legible attributes and the end of a tag can follow an attribute. -/
lemma followsAttribute_render {as : List Attribute} (h : ∀ a ∈ as, a.Legible) (closed : Bool)
    (rest : Text) :
    FollowsAttribute ((as.flatMap fun a => ' ' :: a.render) ++ (tagEnd closed ++ rest)) := by
  cases as with
  | nil =>
    cases closed with
    | false => exact ⟨⟨'>', rest, rfl, .inr rfl⟩, by simp [tagEnd, Text.isSpace]⟩
    | true => exact ⟨⟨' ', '/' :: '>' :: rest, rfl, .inl rfl⟩, by simp [tagEnd, Text.isSpace]⟩
  | cons a as =>
    have ha := h a (by simp)
    obtain ⟨c, name, hc⟩ := List.exists_cons_of_ne_nil ha.ne_nil
    have hfree := ha.free c (by simp [hc])
    have hequals : c ≠ '=' := fun h => hfree.2 (by simp [h])
    refine ⟨⟨' ', _, rfl, .inl rfl⟩, ?_⟩
    have hspace : Text.isSpace ' ' = true := rfl
    simp [hspace, Attribute.render, hc, hfree.1, hequals]

/-- The text of an attribute does not look like the end of a tag: its name starts with no bracket,
and where it is a single slash no bracket follows. -/
lemma Attribute.render_ne_tagEnd {a : Attribute} (ha : a.Legible) {t : Text}
    (hslash : a.value = .empty → a.name.getLast? = some '/' → t.head? ≠ some '>') (s : Text) :
    a.render ++ t ≠ '>' :: s ∧ a.render ++ t ≠ '/' :: '>' :: s := by
  obtain ⟨hne, hfree, -⟩ := ha
  have hbracket : '>' ∉ a.name := fun h => (hfree _ h).2 (by simp)
  unfold Attribute.render
  cases hname : a.name with
  | nil => exact absurd hname hne
  | cons c name =>
    rw [hname] at hbracket hslash
    constructor
    · intro h
      simp only [List.cons_append, List.cons.injEq] at h
      exact hbracket (by simp [h.1])
    · intro h
      simp only [List.cons_append, List.cons.injEq] at h
      obtain ⟨rfl, h⟩ := h
      cases name with
      | nil =>
        by_cases hempty : a.value = .empty
        · simp only [hempty, AttributeValue.render, List.nil_append] at h
          exact hslash hempty rfl (by simp [h])
        · obtain ⟨d, w, hw, -⟩ := AttributeValue.render_head hempty
          simp [hw] at h
      | cons d name =>
        simp only [List.cons_append, List.cons.injEq] at h
        exact hbracket (by simp [h.1])

/-- No bracket follows a name that ends in a slash, if the attributes do not end in one, or else the
tag is closed. -/
lemma head?_ne_of_endsInSlash {a : Attribute} {as : List Attribute} {closed : Bool}
    (hslash : closed = false → ¬ EndsInSlash (a :: as)) (rest : Text) :
    a.value = .empty → a.name.getLast? = some '/' →
      ((as.flatMap fun a => ' ' :: a.render) ++ (tagEnd closed ++ rest)).head? ≠ some '>' := by
  intro hempty hlast
  cases as with
  | nil =>
    cases closed with
    | false => exact absurd ⟨a, rfl, hempty, hlast⟩ (hslash rfl)
    | true => simp [tagEnd]
  | cons b as => simp

/-- Reading the attributes of a tag goes on after an attribute. -/
lemma Tag.readAttributes_of_read {tag : Text} {start : Nat} {read : List Attribute} {a : Attribute}
    {c c₁ c₂ : Cursor} (hskip : c.skipSpaces = c₁)
    (hend : ∀ s, c₁.rest ≠ '>' :: s ∧ c₁.rest ≠ '/' :: '>' :: s)
    (hread : Attribute.read tag c₁ = .ok (a, c₂)) :
    Tag.readAttributes tag start read c = Tag.readAttributes tag start (a :: read) c₂ := by
  subst hskip
  have hshorter := Attribute.read_shorter hread
  rw [Tag.readAttributes]
  split
  · rename_i heq
    simp [heq] at hshorter
  · rename_i s heq
    exact absurd heq (hend s).1
  · rename_i s heq
    exact absurd heq (hend s).2
  · split
    · rename_i herror
      simp [hread] at herror
    · rename_i a' c' heq
      simp only [hread, Except.ok.injEq, Prod.mk.injEq] at heq
      rw [heq.1, heq.2]

/-- **The attributes of a tag are read from their text**, up to spans and with their values
reread. -/
lemma Tag.readAttributes_render (tag rest : Text) (start offset : Nat) {as : List Attribute}
    (read : List Attribute) (h : ∀ a ∈ as, a.Legible) (closed : Bool)
    (hslash : closed = false → ¬ EndsInSlash as) :
    ∃ as' offset', as'.map (Attribute.recast id) = as.map (Attribute.recast AttributeValue.reread) ∧
      Tag.readAttributes tag start read
          ⟨(as.flatMap fun a => ' ' :: a.render) ++ (tagEnd closed ++ rest), offset⟩ =
        .ok (read.reverse ++ as', closed, ⟨rest, offset'⟩) := by
  induction as generalizing read offset with
  | nil =>
    refine ⟨[], ?_⟩
    rw [Tag.readAttributes]
    cases closed with
    | false =>
      have hskip : Cursor.skipSpaces ⟨'>' :: rest, offset⟩ = ⟨'>' :: rest, offset⟩ :=
        Cursor.skipSpaces_cons rfl
      exact ⟨offset + 1, rfl, by simp [tagEnd, hskip]⟩
    | true =>
      have hskip : Cursor.skipSpaces ⟨' ' :: '/' :: '>' :: rest, offset⟩ =
          ⟨'/' :: '>' :: rest, offset + 1⟩ := Cursor.skipSpaces_append [' '] rfl rfl
      exact ⟨offset + 1 + 2, rfl, by simp [tagEnd, hskip]⟩
  | cons a as ih =>
    have ha := h a (by simp)
    have has : ∀ a ∈ as, a.Legible := fun a' h' => h a' (by simp [h'])
    have hlast := head?_ne_of_endsInSlash hslash rest
    have hslash' : closed = false → ¬ EndsInSlash as := by
      rintro hclosed ⟨b, hb, hempty⟩
      exact hslash hclosed ⟨b, by simp [List.getLast?_cons, Option.mem_def.1 hb], hempty⟩
    have hfollows := followsAttribute_render has closed rest
    obtain ⟨span, offset₁, hread⟩ := Attribute.read_render tag (offset + 1) ha hfollows hlast
    obtain ⟨as', offset', hsame, hrest⟩ :=
      ih offset₁ (⟨a.name, a.value.reread, span⟩ :: read) has hslash'
    have hskip : Cursor.skipSpaces ⟨' ' :: (a.render ++ ((as.flatMap fun a => ' ' :: a.render) ++
        (tagEnd closed ++ rest))), offset⟩ = ⟨a.render ++ ((as.flatMap fun a => ' ' :: a.render) ++
        (tagEnd closed ++ rest)), offset + 1⟩ := by
      refine Cursor.skipSpaces_append [' '] rfl ?_
      obtain ⟨c, name, hc⟩ := List.exists_cons_of_ne_nil ha.ne_nil
      simp [Attribute.render, hc, (ha.free c (by simp [hc])).1]
    refine ⟨⟨a.name, a.value.reread, span⟩ :: as', offset', by simp [Attribute.recast, hsame], ?_⟩
    simp only [List.flatMap_cons, List.cons_append, List.append_assoc]
    rw [Tag.readAttributes_of_read hskip (Attribute.render_ne_tagEnd ha hlast) hread, hrest]
    simp

/-! ### Where text ends -/

/-- Text ends before a brace and before markup. -/
lemma textEnds_cons {c : Char} {s : Text} :
    TextEnds (c :: s) ↔ c = '{' ∨ startsMarkup (c :: s) = true := by
  simp only [TextEnds, textRun]
  split_ifs with h
  · simpa using h
  · simpa using h

/-- A bracket that text ends after, or that a character of the same text follows, is text. -/
lemma startsMarkup_append_eq_false {c : Char} {s rest : Text}
    (hmarkup : ∀ d : Char, (d.isAlpha = true ∨ d = '/' ∨ d = '!') → ¬ ['<', d] <:+: c :: s)
    (hrest : TextEnds rest) : startsMarkup (c :: (s ++ rest)) = false := by
  rw [← Bool.not_eq_true]
  intro h
  unfold startsMarkup at h
  split at h
  · rename_i d u heq
    simp only [List.cons.injEq] at heq
    obtain ⟨rfl, heq⟩ := heq
    have hd : d.isAlpha = true ∨ d = '/' ∨ d = '!' := by simpa [or_assoc] using h
    cases s with
    | nil =>
      rw [List.nil_append] at heq
      rw [heq, textEnds_cons] at hrest
      rcases hrest with rfl | hstarts
      · exact absurd hd (by decide)
      · obtain rfl := eq_lt_of_startsMarkup hstarts
        exact absurd hd (by decide)
    | cons e s =>
      obtain rfl : e = d := by simpa using congrArg List.head? heq
      exact hmarkup e hd ⟨[], s, rfl⟩
  · simp at h

/-- Text is read to its end. -/
lemma textRun_append_of_ends {s rest : Text} (hbrace : '{' ∉ s)
    (hmarkup : ∀ d : Char, (d.isAlpha = true ∨ d = '/' ∨ d = '!') → ¬ ['<', d] <:+: s)
    (hrest : TextEnds rest) : textRun (s ++ rest) = (s, rest) := by
  induction s with
  | nil =>
    have happend := textRun_append rest
    rw [hrest, List.nil_append] at happend
    exact Prod.ext hrest happend
  | cons c s ih =>
    have hc : c ≠ '{' := fun h => hbrace (by simp [h])
    have hstarts := startsMarkup_append_eq_false hmarkup hrest
    have hrun := ih (fun h => hbrace (by simp [h])) fun d hd h => hmarkup d hd (List.infix_cons h)
    simp [textRun, hc, hstarts, hrun]

/-- Text ends before an element. -/
lemma textEnds_element {tag : Tag} (hname : IsElementName tag.name) (children : List Node)
    (span : Span) (t : Text) : TextEnds ((Node.element tag children span).render ++ t) := by
  obtain ⟨⟨c, hc, halpha⟩, -⟩ := hname
  obtain ⟨name, hname⟩ := List.head?_eq_some_iff.1 hc
  cases hclosed : tag.selfClosing <;>
    simp [textEnds_cons, Node.render, hclosed, Tag.render, hname, startsMarkup, halpha]

/-! ### One step of a parse -/

namespace State

/-- A parse goes on after a step. -/
lemma run_of_step {st st' : State} (hne : st.cursor.rest ≠ []) (hstep : st.step = .ok st') :
    st.run = st'.run := by
  rw [run, dif_neg hne]
  split
  · rename_i herror
    simp [hstep] at herror
  · rename_i st₁ heq
    rw [hstep, Except.ok.injEq] at heq
    rw [heq]

/-- A parse ends where nothing is left to read and nothing is open. -/
lemma run_end (done : List Node) (offset : Nat) :
    run ⟨done, [], ⟨[], offset⟩⟩ = .ok done.reverse := by
  rw [run, dif_pos rfl]

/-- Where neither a brace nor a close tag nor a comment starts, the step reads an opening tag or
text. -/
lemma step_cons {st : State} {c : Char} {s : Text} (hrest : st.cursor.rest = c :: s)
    (hbrace : c ≠ '{') (hmark : ∀ d t, c :: s = '<' :: d :: t → d ≠ '/' ∧ d ≠ '!') :
    st.step = if startsMarkup (c :: s) then st.openElement s else .ok (st.readText c s) := by
  unfold step
  rw [hrest]
  split
  · rename_i heq
    simp at heq
  · rename_i u heq
    exact absurd rfl (hmark _ _ heq).1
  · rename_i u heq
    exact absurd rfl (hmark _ _ heq).2
  · rename_i u _ heq
    exact absurd rfl (hmark _ _ heq).2
  · rename_i u heq
    exact absurd (by simpa using congrArg List.head? heq) hbrace
  · rename_i d u _ _ _ _ heq
    simp only [List.cons.injEq] at heq
    obtain ⟨rfl, rfl⟩ := heq
    rfl

/-- Where no markup and no brace starts, the step reads text. -/
lemma step_text {st : State} {c : Char} {s : Text} (hrest : st.cursor.rest = c :: s)
    (hbrace : c ≠ '{') (hmarkup : startsMarkup (c :: s) = false) :
    st.step = .ok (st.readText c s) := by
  have hmark : ∀ d t, c :: s = '<' :: d :: t → d ≠ '/' ∧ d ≠ '!' := by
    intro d t heq
    simp only [heq, startsMarkup, Bool.or_eq_false_iff, beq_eq_false_iff_ne] at hmarkup
    exact ⟨hmarkup.1.2, hmarkup.2⟩
  rw [step_cons hrest hbrace hmark, if_neg (by simp [hmarkup])]

/-- Where a letter follows a bracket, the step reads an opening tag. -/
lemma step_open {st : State} {s : Text} (hrest : st.cursor.rest = '<' :: s)
    (hs : ∃ c ∈ s.head?, c.isAlpha = true) : st.step = st.openElement s := by
  obtain ⟨c, hc, halpha⟩ := hs
  obtain ⟨t, rfl⟩ := List.head?_eq_some_iff.1 hc
  have hmark : ∀ d u, '<' :: c :: t = '<' :: d :: u → d ≠ '/' ∧ d ≠ '!' := by
    intro d u heq
    obtain rfl : c = d := by simpa using congrArg (List.head? ∘ List.tail) heq
    constructor
    · rintro rfl
      exact absurd halpha (by decide)
    · rintro rfl
      exact absurd halpha (by decide)
  rw [step_cons hrest (by decide) hmark, if_pos (by simp [startsMarkup, halpha])]

/-- **An opening tag is read from its text.** What happens to its element then depends on how the
tag ends and on its name only. -/
lemma step_render {tag : Tag} (h : tag.Legible) (closed : Bool)
    (hslash : closed = false → ¬ EndsInSlash tag.attributes) (done : List Node)
    (stack : List Frame) (offset : Nat) (rest : Text) : ∃ as' c',
      as'.map (Attribute.recast id) = tag.attributes.map (Attribute.recast AttributeValue.reread) ∧
      c'.rest = rest ∧
      step ⟨done, stack, ⟨tag.render ++ (tagEnd closed ++ rest), offset⟩⟩ =
        if closed || isVoid tag.name then
          .ok ⟨.element ⟨tag.name, as', true⟩ [] ⟨offset, c'.offset⟩ :: done, stack, c'⟩
        else if isRaw tag.name then
          match readRaw tag.name offset c' with
          | .error e => .error e
          | .ok (children, c'') =>
            .ok ⟨.element ⟨tag.name, as', false⟩ children ⟨offset, c''.offset⟩ :: done, stack, c''⟩
        else .ok ⟨[], ⟨⟨tag.name, as', false⟩, offset, done⟩ :: stack, c'⟩ := by
  obtain ⟨as', offset', hsame, hread⟩ := Tag.readAttributes_render tag.name rest offset
    (offset + 1 + tag.name.size) [] h.attributes closed hslash
  obtain ⟨⟨c, u, htail, hc⟩, -⟩ := followsAttribute_render h.attributes closed rest
  have hrest : tag.render ++ (tagEnd closed ++ rest) = '<' :: (tag.name ++ c :: u) := by
    rw [← htail, Tag.render, List.append_assoc, List.cons_append]
  rw [htail] at hread
  have hstop : (c :: u).head?.any isNameChar = false := by
    rcases hc with rfl | rfl <;> rfl
  obtain ⟨⟨d, hd, halpha⟩, hchars⟩ := h.name
  have hhead : ∃ d ∈ (tag.name ++ c :: u).head?, d.isAlpha = true :=
    ⟨d, by simp [List.head?_append, Option.mem_def.1 hd], halpha⟩
  refine ⟨as', ⟨rest, offset'⟩, hsame, rfl, ?_⟩
  rw [hrest, step_open rfl hhead]
  simp only [openElement, Text.takeWhile_append_of_stop hchars hstop,
    Text.dropWhile_append_of_stop hchars hstop, hread]
  rfl

/-- A close tag is read from its text, if it is that of the element opened last. -/
lemma step_close {name : Text} (h : ∀ c ∈ name, isNameChar c = true) (frame : Frame)
    (hframe : frame.tag.name = name) (children : List Node) (stack : List Frame) (offset : Nat)
    (rest : Text) : ∃ offset', step ⟨children, frame :: stack,
        ⟨"</".toList ++ (name ++ '>' :: rest), offset⟩⟩ =
      .ok ⟨.element frame.tag children.reverse ⟨frame.start, offset'⟩ :: frame.before, stack,
        ⟨rest, offset'⟩⟩ := by
  have hstop : ('>' :: rest).head?.any isNameChar = false := rfl
  have hskip : Cursor.skipSpaces ⟨'>' :: rest, offset + 2 + name.size⟩ =
      ⟨'>' :: rest, offset + 2 + name.size⟩ := Cursor.skipSpaces_cons rfl
  refine ⟨offset + 2 + name.size + 1, ?_⟩
  show closeElement _ (name ++ '>' :: rest) = _
  simp only [closeElement, Text.takeWhile_append_of_stop h hstop,
    Text.dropWhile_append_of_stop h hstop, hskip]
  rw [if_pos hframe]

/-- **A raw body is read from its text**, together with the close tag after it. -/
lemma readRaw_render {name : Text} {children : List Node} (hname : IsElementName name)
    (hbody : IsRawBody name children) (start : Nat) (rest : Text) (offset : Nat) :
    ∃ children' offset',
      Node.recastAll id children' = Node.recastAll AttributeValue.reread children ∧
      readRaw name start
          ⟨Node.renderAll children ++ ("</".toList ++ (name ++ '>' :: rest)), offset⟩ =
        .ok (children', ⟨rest, offset'⟩) := by
  have hfirst : '<' ∉ '/' :: name := by
    intro hmem
    rcases List.mem_cons.1 hmem with hslash | hmem
    · exact absurd hslash (by decide)
    · exact absurd (hname.2 _ hmem) (by decide)
  have hbreak : ∀ {body : Text}, ¬ ("</".toList ++ name) <:+: body →
      Text.breakOn ("</".toList ++ name) (body ++ ("</".toList ++ (name ++ '>' :: rest))) =
        some (body, '>' :: rest) :=
    fun hnone => Text.breakOn_append _ hfirst hnone
  have hskip : ∀ {offset : Nat}, Cursor.skipSpaces ⟨'>' :: rest, offset⟩ = ⟨'>' :: rest, offset⟩ :=
    Cursor.skipSpaces_cons rfl
  rcases hbody with rfl | ⟨body, span, rfl, hne, hnone⟩
  · refine ⟨[], offset + Text.size [] + 2 + name.size + 1, rfl, ?_⟩
    have hnone : ¬ ("</".toList ++ name) <:+: [] := by simp
    simp only [readRaw, Node.renderAll, hbreak hnone, hskip]
    rfl
  · refine ⟨[.text body ⟨offset, offset + body.size⟩], offset + body.size + 2 + name.size + 1, rfl,
      ?_⟩
    have h := hbreak hnone
    simp only [readRaw, Node.renderAll, Node.render, List.append_nil, h, hskip]
    rw [if_neg (by simpa using hne)]

/-! ### Runs of a parse -/

/-- **A node is read back**: in the middle of a parse, where its text is followed by something that
text would end before, it is read from its text, up to spans and with its values reread. Text ends
before it, if it is no text itself. -/
structure ReadsBack (node : Node) : Prop where
  ends : node.isText = false → ∀ t : Text, TextEnds (node.render ++ t)
  reads : ∀ (done : List Node) (stack : List Frame) (offset : Nat) (rest : Text),
    (node.isText = true → TextEnds rest) → ∃ node' offset',
      node'.recast id = node.recast AttributeValue.reread ∧
      run ⟨done, stack, ⟨node.render ++ rest, offset⟩⟩ = run ⟨node' :: done, stack, ⟨rest, offset'⟩⟩

/-- **Nodes that are read back one by one are read back together**, if no two texts are neighbours
and text ends after them.

**Proof sketch.** Induction on the nodes. A text is followed by a node that is no text, or by what
follows all of them, and text ends before both. -/
lemma run_renderAll_of_apart {nodes : List Node} (h : TextsApart nodes)
    (hnodes : ∀ node ∈ nodes, ReadsBack node) (done : List Node) (stack : List Frame)
    (offset : Nat) {rest : Text} (hrest : TextEnds rest) : ∃ nodes' offset',
      Node.recastAll id nodes' = Node.recastAll AttributeValue.reread nodes ∧
      run ⟨done, stack, ⟨Node.renderAll nodes ++ rest, offset⟩⟩ =
        run ⟨nodes'.reverse ++ done, stack, ⟨rest, offset'⟩⟩ := by
  induction nodes generalizing done offset with
  | nil => exact ⟨[], offset, rfl, rfl⟩
  | cons node nodes ih =>
    have hends : node.isText = true → TextEnds (Node.renderAll nodes ++ rest) := by
      intro htext
      cases nodes with
      | nil => exact hrest
      | cons next nodes =>
        have hother : next.isText = false := by
          have := (List.isChain_cons_cons.1 h).1
          simpa [htext] using this
        rw [Node.renderAll, List.append_assoc]
        exact (hnodes next (by simp)).ends hother _
    obtain ⟨node', offset₁, hnode, hrun⟩ :=
      (hnodes node (by simp)).reads done stack offset (Node.renderAll nodes ++ rest) hends
    obtain ⟨nodes', offset', hsame, hrun'⟩ :=
      ih h.tail (fun n hn => hnodes n (List.mem_cons_of_mem _ hn)) (node' :: done) offset₁
    refine ⟨node' :: nodes', offset', by simp [Node.recastAll, hnode, hsame], ?_⟩
    rw [Node.renderAll, List.append_assoc, hrun, hrun', List.reverse_cons, List.append_assoc]
    rfl

/-- Well-formed nodes that are read back one by one are read back together. -/
lemma run_renderAll {nodes : List Node} (h : WellFormedNodes nodes)
    (hnodes : ∀ node ∈ nodes, ReadsBack node) (done : List Node) (stack : List Frame)
    (offset : Nat) {rest : Text} (hrest : TextEnds rest) : ∃ nodes' offset',
      Node.recastAll id nodes' = Node.recastAll AttributeValue.reread nodes ∧
      run ⟨done, stack, ⟨Node.renderAll nodes ++ rest, offset⟩⟩ =
        run ⟨nodes'.reverse ++ done, stack, ⟨rest, offset'⟩⟩ :=
  run_renderAll_of_apart h.apart hnodes done stack offset hrest

/-- The text of an element that is not closed by its tag. -/
lemma render_append_of_open {tag : Tag} (hopen : tag.selfClosing = false) (children : List Node)
    (span : Span) (rest : Text) : (Node.element tag children span).render ++ rest =
      tag.render ++ (tagEnd false ++ (Node.renderAll children ++
        ("</".toList ++ (tag.name ++ '>' :: rest)))) := by
  simp [Node.render, hopen, tagEnd]

/-- A tag that is not closed is not that of a void element. -/
lemma isVoid_eq_false {tag : Tag} (h : tag.Legible) (hopen : tag.selfClosing = false) :
    isVoid tag.name = false := by
  rw [← Bool.not_eq_true]
  intro hvoid
  simp [h.closed_of_void hvoid] at hopen

/-- Plain text is read back: it is read to its end in one step. -/
lemma readsBack_text {value : Text} (hvalue : IsPlainText value) (span : Span) :
    ReadsBack (.text value span) := by
  refine ⟨fun hother => by simp [Node.isText] at hother, fun done stack offset rest hends => ?_⟩
  obtain ⟨c, s, rfl⟩ := List.exists_cons_of_ne_nil hvalue.ne_nil
  have hrest := hends rfl
  have hbrace : c ≠ '{' := fun h => hvalue.no_brace (by simp [h])
  have hrun : textRun (s ++ rest) = (s, rest) :=
    textRun_append_of_ends (fun h => hvalue.no_brace (by simp [h]))
      (fun d hd h => hvalue.no_markup d hd (List.infix_cons h)) hrest
  refine ⟨.text (c :: s) ⟨offset, offset + Text.size (c :: s)⟩, offset + Text.size (c :: s), rfl,
    ?_⟩
  have hstep : step ⟨done, stack, ⟨c :: (s ++ rest), offset⟩⟩ = _ :=
    step_text rfl hbrace (startsMarkup_append_eq_false hvalue.no_markup hrest)
  simp only [readText, hrun] at hstep
  exact run_of_step (by simp [Node.render]) hstep

/-- A closed expression is read back from its braces. -/
lemma readsBack_expression {source : Text} (hsource : Brace.Closed source) (span : Span) :
    ReadsBack (.expression source span) := by
  refine ⟨fun _ t => by simp [textEnds_cons, Node.render, braced], fun done stack offset rest _ =>
    ⟨.expression source ⟨offset, offset + source.size + 2⟩, offset + source.size + 2, rfl, ?_⟩⟩
  apply run_of_step (by simp [Node.render, braced])
  show readExpression _ = _
  simp only [readExpression, Node.render, hsource.inside?_braced_append]
  rfl

/-- An element that its tag closes is read back. -/
lemma readsBack_closed {tag : Tag} (htag : tag.Legible) (hclosed : tag.selfClosing = true)
    (span : Span) : ReadsBack (.element tag [] span) := by
  refine ⟨fun _ => textEnds_element htag.name [] span, fun done stack offset rest _ => ?_⟩
  obtain ⟨as', c', hsame, rfl, hstep⟩ := step_render htag true (by simp) done stack offset rest
  refine ⟨.element ⟨tag.name, as', true⟩ [] ⟨offset, c'.offset⟩, c'.offset, ?_, ?_⟩
  · simp [Node.recast, Node.recastAll, Tag.recast, hsame, hclosed]
  · simp only [Node.render, hclosed, if_true, List.append_assoc]
    exact run_of_step (by simp [Tag.render]) hstep

section Open

variable {tag : Tag} {children : List Node} (htag : tag.Legible) (hopen : tag.selfClosing = false)
  (hslash : ¬ EndsInSlash tag.attributes)

include htag hopen hslash

/-- A raw element is read back: its body and its close tag are read along with its tag. -/
lemma readsBack_raw (hraw : isRaw tag.name = true) (hbody : IsRawBody tag.name children)
    (span : Span) : ReadsBack (.element tag children span) := by
  refine ⟨fun _ => textEnds_element htag.name children span, fun done stack offset rest _ => ?_⟩
  obtain ⟨as', ⟨r, offset₁⟩, hsame, rfl, hstep⟩ := step_render htag false (fun _ => hslash) done
    stack offset (Node.renderAll children ++ ("</".toList ++ (tag.name ++ '>' :: rest)))
  obtain ⟨children', offset', hchildren, hread⟩ :=
    readRaw_render htag.name hbody offset rest offset₁
  simp only [isVoid_eq_false htag hopen, hraw, Bool.or_self, Bool.false_eq_true, if_false,
    if_true, hread] at hstep
  refine ⟨.element ⟨tag.name, as', false⟩ children' ⟨offset, offset'⟩, offset', ?_, ?_⟩
  · simp [Node.recast, Tag.recast, hsame, hopen, hchildren]
  · rw [render_append_of_open hopen]
    exact run_of_step (by simp [Tag.render]) hstep

/-- **An element is read back if its children are.** They are read with the element on the stack,
and the close tag makes it a node of the list around it. -/
lemma readsBack_element (hraw : isRaw tag.name = false) (hapart : TextsApart children)
    (hread : ∀ child ∈ children, ReadsBack child) (span : Span) :
    ReadsBack (.element tag children span) := by
  refine ⟨fun _ => textEnds_element htag.name children span, fun done stack offset rest _ => ?_⟩
  obtain ⟨as', ⟨r, offset₁⟩, hsame, rfl, hstep⟩ := step_render htag false (fun _ => hslash) done
    stack offset (Node.renderAll children ++ ("</".toList ++ (tag.name ++ '>' :: rest)))
  simp only [isVoid_eq_false htag hopen, hraw, Bool.or_self, Bool.false_eq_true, if_false]
    at hstep
  have hclose : TextEnds ("</".toList ++ (tag.name ++ '>' :: rest)) := by
    simp [textEnds_cons, startsMarkup]
  obtain ⟨children', offset₂, hchildren', hrun⟩ := run_renderAll_of_apart hapart hread []
    (⟨⟨tag.name, as', false⟩, offset, done⟩ :: stack) offset₁ hclose
  obtain ⟨offset', hclosed⟩ := step_close htag.name.2
    ⟨⟨tag.name, as', false⟩, offset, done⟩ rfl (children'.reverse ++ []) stack offset₂ rest
  refine ⟨.element ⟨tag.name, as', false⟩ children' ⟨offset, offset'⟩, offset', ?_, ?_⟩
  · simp [Node.recast, Tag.recast, hsame, hopen, hchildren']
  · rw [render_append_of_open hopen, run_of_step (by simp [Tag.render]) hstep, hrun,
      run_of_step (by simp) hclosed]
    simp

end Open

/-- **A well-formed node is read back.** -/
theorem readsBack_of_wellFormed {node : Node} (h : node.WellFormed) : ReadsBack node := by
  induction h with
  | text hvalue => exact readsBack_text hvalue _
  | expression hsource => exact readsBack_expression hsource _
  | closed htag hclosed => exact readsBack_closed htag.legible hclosed _
  | raw htag hopen hraw hbody =>
    exact readsBack_raw htag.legible hopen htag.not_endsInSlash hraw hbody _
  | element htag hopen hraw hapart hchildren ih =>
    exact readsBack_element htag.legible hopen htag.not_endsInSlash hraw hapart ih _

end State

/-! ### Whole sources -/

/-- **What was written is read back.** The text of well-formed nodes is read without an error. The
nodes that are read differ from those written in their spans only, exactly when every attribute
value at any depth is readable.

**Proof sketch.** At the end of the text nothing is open, so the run of the parse ends with the
nodes that were read back; and values that are not readable show in the result. -/
theorem parse_renderAll {nodes : List Node} (h : WellFormedNodes nodes) :
    ∃ document, parse (Node.renderAll nodes) = .ok document ∧
      (SameUpToSpans document.nodes nodes ↔ ∀ v ∈ Node.valuesAll nodes, v.Readable) := by
  have hends : TextEnds [] := rfl
  obtain ⟨nodes', offset, hsame, hrun⟩ := State.run_renderAll h
    (fun node hnode => State.readsBack_of_wellFormed (h.each node hnode)) [] [] 0 hends
  have hend : State.run ⟨nodes'.reverse ++ [], [], ⟨[], offset⟩⟩ = .ok nodes' := by
    rw [State.run]
    simp
  rw [hend, List.append_nil] at hrun
  refine ⟨⟨nodes', ⟨0, (Node.renderAll nodes).size⟩⟩, by rw [parse, hrun], ?_⟩
  rw [SameUpToSpans, hsame, recastAll_eq_iff]
  exact forall₂_congr fun v _ => AttributeValue.reread_eq_iff

/-! ### Values that come back and values that do not -/

/-- A paragraph with one attribute, whose text ends in a bracket right before the close tag. -/
def paragraphWith (parts : List ValuePart) : List Node :=
  [.element ⟨"p".toList, [{ name := "a".toList, value := .text parts }], false⟩
    [.text "b<".toList {}] {}]

/-- The paragraph is well-formed whatever the value of its attribute. -/
lemma wellFormedNodes_paragraphWith (parts : List ValuePart) :
    WellFormedNodes (paragraphWith parts) := by
  have hattribute : IsAttributeName "a".toList := by
    refine ⟨by decide, fun c hc => ?_, by decide, by decide⟩
    rw [List.mem_singleton.1 hc]
    decide
  have htext : IsPlainText "b<".toList := by
    refine ⟨by decide, by decide, fun c _ hinfix => ?_⟩
    obtain ⟨before, after, heq⟩ := hinfix
    cases before with
    | nil => simp at heq
    | cons d before =>
      have hlength := congrArg List.length heq
      simp at hlength
      omega
  have htag : Tag.WellFormed
      ⟨"p".toList, [{ name := "a".toList, value := .text parts }], false⟩ := by
    have hname : IsElementName "p".toList := by
      refine ⟨⟨'p', rfl, rfl⟩, fun c hc => ?_⟩
      rw [List.mem_singleton.1 hc]
      decide
    have hvoid : ¬ isVoid "p".toList = true := by decide
    refine ⟨hname, fun h => absurd h hvoid, fun a ha => ?_⟩
    rw [List.mem_singleton.1 ha]
    exact ⟨hattribute, by simp⟩
  refine ⟨.singleton _, fun node hnode => ?_⟩
  rw [List.mem_singleton.1 hnode]
  refine .element htag rfl rfl (.singleton _) fun child hchild => ?_
  rw [List.mem_singleton.1 hchild]
  exact .text htext

/-- A value of a literal stretch and an expression comes back. -/
theorem parse_renderAll_two_parts : ∃ document,
    parse (Node.renderAll (paragraphWith [.text "c ".toList, .expression "d".toList])) =
      .ok document ∧
    SameUpToSpans document.nodes (paragraphWith [.text "c ".toList, .expression "d".toList]) := by
  obtain ⟨document, hparse, hsame⟩ := parse_renderAll (wellFormedNodes_paragraphWith
    [.text "c ".toList, .expression "d".toList])
  refine ⟨document, hparse, hsame.2 fun v hv => ?_⟩
  obtain rfl : v = .text [.text "c ".toList, .expression "d".toList] := by
    simpa [paragraphWith, Node.valuesAll, Node.values, Tag.values] using hv
  exact ⟨by decide +kernel, by decide⟩

/-- **A value with both kinds of quotes does not come back**: its double quotes are written, and
read, as entities. -/
theorem not_parse_renderAll_both_quotes :
    WellFormedNodes (paragraphWith [.text "\"'".toList]) ∧
    ¬ ∃ document, parse (Node.renderAll (paragraphWith [.text "\"'".toList])) = .ok document ∧
      SameUpToSpans document.nodes (paragraphWith [.text "\"'".toList]) := by
  refine ⟨wellFormedNodes_paragraphWith _, ?_⟩
  rintro ⟨document, hparse, hsame⟩
  have hread : parse (Node.renderAll (paragraphWith [.text "\"'".toList])) = .ok
      ⟨[.element ⟨"p".toList, [⟨"a".toList, .text [.text "&quot;'".toList], ⟨3, 14⟩⟩], false⟩
        [.text "b<".toList ⟨15, 17⟩] ⟨0, 21⟩], ⟨0, 21⟩⟩ := by
    decide +kernel
  rw [hread, Except.ok.injEq] at hparse
  subst hparse
  exact absurd hsame (by decide)

end Markup

end OneFile
