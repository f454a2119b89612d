import OneFile.Markup.Attribute

/-!
# Reading markup

A source is read from left to right with the elements that are still open on a stack. Each step
reads one thing: text, an expression tag, a comment, an opening tag (with its whole body, when
the body is raw) or a close tag. So the number of steps is bounded by the length of the source,
and nothing is ever read twice.

## Main definitions

* `OneFile.Markup.Frame` — an element that is still open.
* `OneFile.Markup.State` — the nodes read so far, the open elements and the place in the source.
* `OneFile.Markup.State.step` — reading one thing.
* `OneFile.Markup.parse` — reading a whole source.

## Main results

* `OneFile.Markup.State.step_shorter` — every step consumes something.
-/

namespace OneFile.Markup

/-! ### Lexical rules -/

/-- The characters of element names. -/
def isNameChar (c : Char) : Bool := c.isAlphanum || ['-', '_', ':', '.'].contains c

/-- Whether the text starts a tag, a close tag or a comment. -/
def startsMarkup : Text → Bool
  | '<' :: c :: _ => c.isAlpha || c == '/' || c == '!'
  | _ => false

/-- The characters up to the next markup or brace, and what follows. -/
def textRun : Text → Text × Text
  | [] => ([], [])
  | c :: s =>
    if c == '{' || startsMarkup (c :: s) then ([], c :: s)
    else (c :: (textRun s).1, (textRun s).2)

/-- A run of text leaves no more than there was. -/
theorem length_textRun_le (s : Text) : (textRun s).2.length ≤ s.length := by
  induction s with
  | nil => simp [textRun]
  | cons c s ih =>
    simp only [textRun]
    split
    · exact Nat.le_refl _
    · exact Nat.le_succ_of_le ih

/-! ### The state of a parse -/

/-- An element that is still open. -/
structure Frame where
  tag : Tag
  /-- Where the element starts. -/
  start : Nat
  /-- The siblings before it, latest first. -/
  before : List Node
deriving Repr

/-- The nodes of the innermost open list, latest first; the open elements, innermost first; and
the place in the source. -/
structure State where
  done : List Node
  stack : List Frame
  cursor : Cursor
deriving Repr

namespace State

/-- The state after one more node. -/
def push (st : State) (node : Node) (c : Cursor) : State := ⟨node :: st.done, st.stack, c⟩

/-- Text: one character whatever it is, and all that follows up to markup or a brace. -/
def readText (st : State) (c : Char) (s : Text) : State :=
  let run := textRun s
  let after := st.cursor.advance (c :: run.1) run.2
  st.push (.text (c :: run.1) ⟨st.cursor.offset, after.offset⟩) after

/-- A braced expression. -/
def readExpression (st : State) : Except Error State :=
  let start := st.cursor.offset
  match Brace.inside? st.cursor.rest with
  | none => .error ⟨start, .unterminatedExpression⟩
  | some (source, after) =>
    let stop := start + source.size + 2
    .ok (st.push (.expression source ⟨start, stop⟩) ⟨after, stop⟩)

/-- A comment whose text after its opening `opening` is `body`; it ends at `closing`. -/
def readComment (st : State) (opening closing body : Text) : Except Error State :=
  let start := st.cursor.offset
  match Text.breakOn closing body with
  | none => .error ⟨start, .unterminatedComment⟩
  | some (value, after) =>
    let stop := start + opening.size + value.size + closing.size
    .ok (st.push (.comment value ⟨start, stop⟩) ⟨after, stop⟩)

/-- The raw body of the element `name` that opened at `start`, up to and with its close tag. -/
def readRaw (name : Text) (start : Nat) (c : Cursor) : Except Error (List Node × Cursor) :=
  match Text.breakOn ("</".toList ++ name) c.rest with
  | none => .error ⟨start, .unclosedElement name⟩
  | some (body, after) =>
    let bodyStop := c.offset + body.size
    let c' := Cursor.skipSpaces ⟨after, bodyStop + 2 + name.size⟩
    match c'.rest with
    | '>' :: s =>
      let children := if body.isEmpty then [] else [.text body ⟨c.offset, bodyStop⟩]
      .ok (children, ⟨s, c'.offset + 1⟩)
    | _ => .error ⟨bodyStop, .malformedClosingTag name⟩

/-- An opening tag after its `<`. Elements without a body, and those with a raw one, are read
whole; any other element stays open. -/
def openElement (st : State) (s : Text) : Except Error State :=
  let start := st.cursor.offset
  let name : Text := s.takeWhile isNameChar
  match Tag.readAttributes name start [] ⟨s.dropWhile isNameChar, start + 1 + name.size⟩ with
  | .error e => .error e
  | .ok (attributes, closed, c) =>
    if closed || isVoid name then
      .ok (st.push (.element ⟨name, attributes, true⟩ [] ⟨start, c.offset⟩) c)
    else if isRaw name then
      match readRaw name start c with
      | .error e => .error e
      | .ok (children, c') =>
        .ok (st.push (.element ⟨name, attributes, false⟩ children ⟨start, c'.offset⟩) c')
    else .ok ⟨[], ⟨⟨name, attributes, false⟩, start, st.done⟩ :: st.stack, c⟩

/-- A close tag after its `</`. -/
def closeElement (st : State) (s : Text) : Except Error State :=
  let start := st.cursor.offset
  let name : Text := s.takeWhile isNameChar
  let c := Cursor.skipSpaces ⟨s.dropWhile isNameChar, start + 2 + name.size⟩
  match c.rest with
  | '>' :: after =>
    let stop := c.offset + 1
    match st.stack with
    | [] => .error ⟨start, .unexpectedClosingTag name⟩
    | frame :: stack =>
      if frame.tag.name = name then
        let node := .element frame.tag st.done.reverse ⟨frame.start, stop⟩
        .ok ⟨node :: frame.before, stack, ⟨after, stop⟩⟩
      else .error ⟨start, .mismatchedClosingTag frame.tag.name name⟩
  | _ => .error ⟨start, .malformedClosingTag name⟩

/-- Reading the one thing that starts at the cursor. -/
def step (st : State) : Except Error State :=
  match st.cursor.rest with
  | [] => .ok st
  | '<' :: '/' :: s => st.closeElement s
  | '<' :: '!' :: '-' :: '-' :: s => st.readComment "<!--".toList "-->".toList s
  | '<' :: '!' :: s => st.readComment "<!".toList ">".toList s
  | '{' :: _ => st.readExpression
  | c :: s => if startsMarkup (c :: s) then st.openElement s else .ok (st.readText c s)

/-! ### Every step consumes something -/

/-- A raw body takes at least its closing tag. -/
theorem readRaw_shorter {name : Text} {start : Nat} {c c' : Cursor} {children : List Node}
    (h : readRaw name start c = .ok (children, c')) : c'.rest.length < c.rest.length := by
  simp only [readRaw] at h
  split at h
  · simp at h
  · rename_i body after hb
    have hl := congrArg List.length (Text.breakOn_eq_some hb)
    simp only [List.length_append] at hl
    split at h
    · rename_i s hs
      have hle := Cursor.length_skipSpaces_le ⟨after, c.offset + body.size + 2 + name.size⟩
      rw [hs] at hle
      simp only [Except.ok.injEq, Prod.mk.injEq] at h
      rw [← h.2]
      simp only [List.length_cons] at hle
      show s.length < _
      omega
    · simp at h

/-- Every step that succeeds leaves less to read. -/
theorem step_shorter {st st' : State} (hne : st.cursor.rest ≠ []) (h : st.step = .ok st') :
    st'.cursor.rest.length < st.cursor.rest.length := by
  have hcomment : ∀ {opening closing body : Text},
      st.readComment opening closing body = .ok st' → st'.cursor.rest.length ≤ body.length := by
    intro opening closing body h
    simp only [readComment] at h
    split at h
    · simp at h
    · rename_i value after hb
      simp only [Except.ok.injEq] at h
      rw [← h, Text.breakOn_eq_some hb]
      simp only [push, List.length_append]
      omega
  unfold step at h
  split at h
  · contradiction
  · rename_i s hs
    simp only [closeElement] at h
    split at h
    · rename_i after hc
      have hle := Cursor.length_skipSpaces_le
        ⟨s.dropWhile isNameChar, st.cursor.offset + 2 + Text.size (s.takeWhile isNameChar)⟩
      have hd := (List.dropWhile_sublist isNameChar (l := s)).length_le
      rw [hc] at hle
      simp only [List.length_cons] at hle
      split at h
      · simp at h
      · split at h
        · simp only [Except.ok.injEq] at h
          rw [← h, hs]
          simp only [List.length_cons]
          omega
        · simp at h
    · simp at h
  · rename_i s hs
    have := hcomment h
    rw [hs]
    simp only [List.length_cons]
    omega
  · rename_i s _ hs
    have := hcomment h
    rw [hs]
    simp only [List.length_cons]
    omega
  · simp only [readExpression] at h
    split at h
    · simp at h
    · rename_i hb
      simp only [Except.ok.injEq] at h
      rw [← h]
      exact Brace.length_lt_of_inside? hb
  · rename_i c s _ _ _ _ hs
    have hd := (List.dropWhile_sublist isNameChar (l := s)).length_le
    split at h
    · simp only [openElement] at h
      split at h
      · simp at h
      · rename_i as closed c' ha
        have h₁ := Tag.readAttributes_shorter ha
        rw [hs]
        simp only at h₁
        split at h
        · simp only [Except.ok.injEq] at h
          rw [← h]
          simp only [push, List.length_cons]
          omega
        · split at h
          · split at h
            · simp at h
            · rename_i hr
              have h₂ := readRaw_shorter hr
              simp only [Except.ok.injEq] at h
              rw [← h]
              simp only [push, List.length_cons]
              omega
          · simp only [Except.ok.injEq] at h
            rw [← h]
            simp only [List.length_cons]
            omega
    · simp only [Except.ok.injEq] at h
      rw [← h, hs]
      have := length_textRun_le s
      simp only [readText, push, Cursor.rest_advance, List.length_cons]
      omega

/-- Reading all that is left. -/
def run (st : State) : Except Error (List Node) :=
  if _hne : st.cursor.rest = [] then
    match st.stack with
    | [] => .ok st.done.reverse
    | frame :: _ => .error ⟨frame.start, .unclosedElement frame.tag.name⟩
  else
    match _h : st.step with
    | .error e => .error e
    | .ok st' => run st'
termination_by st.cursor.rest.length
decreasing_by exact step_shorter _hne _h

end State

/-- Reads a component source into its top-level nodes. -/
def parse (source : Text) : Except Error Document :=
  match State.run ⟨[], [], ⟨source, 0⟩⟩ with
  | .error e => .error e
  | .ok nodes => .ok ⟨nodes, ⟨0, source.size⟩⟩

end OneFile.Markup
