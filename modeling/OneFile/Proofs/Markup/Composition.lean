import Mathlib.Logic.Relation
import OneFile.Proofs.Markup.Locality

/-!
# Reading is compositional

Sources that are read one after the other are read alike when they are put together, and a source
is read alike within an element. Only the places differ, by the bytes that come before.

## Main definitions

* `OneFile.Markup.Node.shift`, `OneFile.Markup.Error.shift` — the same thing further to the right.
* `OneFile.Markup.State.place` — a parse further to the right, with nodes read before it and
  elements open around it.
* `OneFile.Markup.State.Steps` — some steps of a parse, each of which has something to read.

## Main results

* `OneFile.Markup.State.step_place` — a step does not depend on what came before it.
* `OneFile.Markup.State.steps_of_run` — a parse that comes to its end does so by steps.
* `OneFile.Markup.parse_append` — a source, and what follows it.
* `OneFile.Markup.parse_enclosed` — a source between the tags of an element.
* `OneFile.Markup.parse_composes` — both.

## Design

Two things change for a source when another one surrounds it: there is text behind it, and there
are nodes, open elements and bytes before it. The first is a matter of looking ahead and can
change what is read, so it is allowed for steps that succeed only. The second never changes what
is read, but for a close tag that finds nothing open. So both are proved of single steps, each on
its own, and are put together for runs.
-/

namespace OneFile

/-! ### Further to the right -/

/-- The same place, `n` bytes further to the right. -/
def Cursor.shift (n : Nat) (c : Cursor) : Cursor := ⟨c.rest, n + c.offset⟩

namespace Cursor

variable (n : Nat) (c : Cursor)

/-- A cursor further to the right has the same text before it. -/
@[simp] lemma rest_shift : (c.shift n).rest = c.rest := rfl

/-- Its offset is further to the right. -/
@[simp] lemma offset_shift : (c.shift n).offset = n + c.offset := rfl

/-- It advances by as much. -/
@[simp] lemma advance_shift (consumed rest : Text) :
    (c.shift n).advance consumed rest = (c.advance consumed rest).shift n := by
  simp [advance, shift, Nat.add_assoc]

/-- It skips as many spaces. -/
@[simp] lemma skipSpaces_shift : (c.shift n).skipSpaces = c.skipSpaces.shift n :=
  advance_shift n c _ _

/-- A place that is given by an offset from a shifted one is shifted. -/
lemma shift_mk (rest : Text) (offset k : Nat) :
    (⟨rest, n + offset + k⟩ : Cursor) = Cursor.shift n ⟨rest, offset + k⟩ := by
  rw [shift, Nat.add_assoc]

end Cursor

namespace Markup

variable (n : Nat)

/-- The same error, `n` bytes further to the right. -/
def Error.shift (e : Error) : Error := ⟨n + e.offset, e.fault⟩

/-- The same attribute, `n` bytes further to the right. -/
def Attribute.shift (a : Attribute) : Attribute := { a with span := a.span.shift n }

/-- The same tag, `n` bytes further to the right. -/
def Tag.shift (tag : Tag) : Tag := { tag with attributes := tag.attributes.map (Attribute.shift n) }

namespace Node

mutual

/-- The same node, `n` bytes further to the right with everything below it. -/
def shift : Node → Node
  | .element tag children span => .element (tag.shift n) (shiftAll children) (span.shift n)
  | .text value span => .text value (span.shift n)
  | .expression source span => .expression source (span.shift n)
  | .comment value span => .comment value (span.shift n)

/-- The same nodes, `n` bytes further to the right with everything below them. -/
def shiftAll : List Node → List Node
  | [] => []
  | node :: nodes => shift node :: shiftAll nodes

end

/-- Nodes are moved one by one. -/
lemma shiftAll_eq_map (nodes : List Node) : shiftAll n nodes = nodes.map (shift n) := by
  induction nodes with
  | nil => rfl
  | cons node nodes ih => rw [shiftAll, ih, List.map_cons]

/-- So they may be moved before they are reversed, or after. -/
@[simp] lemma shiftAll_reverse (nodes : List Node) :
    shiftAll n nodes.reverse = (shiftAll n nodes).reverse := by
  simp [shiftAll_eq_map]

end Node

/-- What comes of a reader further to the right: its error is there, and what it gives is `f` of
what it gives here. -/
def moved {α β : Type} (f : α → β) : Except Error α → Except Error β
  | .error e => .error (e.shift n)
  | .ok a => .ok (f a)

/-! ### Readers further to the right -/

/-- An attribute value further to the right is the same, further to the right. -/
lemma AttributeValue.read_shift (name : Text) (start : Nat) (c : Cursor) :
    AttributeValue.read name (n + start) (c.shift n) =
      moved n (fun r => (r.1, r.2.shift n)) (AttributeValue.read name start c) := by
  obtain ⟨rest, offset⟩ := c
  unfold AttributeValue.read
  cases rest with
  | nil => rfl
  | cons d s =>
    simp only [Cursor.rest_shift, Cursor.offset_shift, Cursor.advance_shift]
    split_ifs with hquote hbrace
    · split <;> rfl
    · split
      · rfl
      · simp [moved, Cursor.shift, Nat.add_assoc]
    · rfl

/-- So is an attribute. -/
lemma Attribute.read_shift (tag : Text) (c : Cursor) :
    Attribute.read tag (c.shift n) =
      moved n (fun r => (r.1.shift n, r.2.shift n)) (Attribute.read tag c) := by
  simp only [Attribute.read, Cursor.rest_shift, Cursor.offset_shift, Cursor.advance_shift,
    Cursor.skipSpaces_shift]
  split_ifs with hempty
  · rfl
  · split
    · rename_i s hs
      rw [Cursor.shift_mk, Cursor.skipSpaces_shift, AttributeValue.read_shift]
      cases AttributeValue.read _ _ _ with
      | error e => rfl
      | ok r => rfl
    · rfl

/-- The attributes of a tag are read alike, further to the right.

**Proof sketch.** Induction along the reading of attributes. -/
lemma Tag.readAttributes_shift (tag : Text) (start : Nat) (read : List Attribute) (c : Cursor) :
    Tag.readAttributes tag (n + start) (read.map (Attribute.shift n)) (c.shift n) =
      moved n (fun r => (r.1.map (Attribute.shift n), r.2.1, r.2.2.shift n))
        (Tag.readAttributes tag start read c) := by
  fun_induction Tag.readAttributes tag start read c with
  | case1 read c c₁ hs =>
    have hs' : c.skipSpaces.rest = [] := hs
    rw [Tag.readAttributes]
    simp [hs', moved, Error.shift]
  | case2 read c c₁ s hs =>
    have hs' : c.skipSpaces.rest = '>' :: s := hs
    rw [Tag.readAttributes, Cursor.skipSpaces_shift]
    simp [hs', moved, Cursor.shift, c₁, Nat.add_assoc]
  | case3 read c c₁ s hs =>
    have hs' : c.skipSpaces.rest = '/' :: '>' :: s := hs
    rw [Tag.readAttributes, Cursor.skipSpaces_shift]
    simp [hs', moved, Cursor.shift, c₁, Nat.add_assoc]
  | case4 read c c₁ e herror hne hopen hclosed =>
    have hread : Attribute.read tag (c.shift n).skipSpaces = .error (e.shift n) := by
      rw [Cursor.skipSpaces_shift, Attribute.read_shift]
      exact congrArg _ herror
    rw [Tag.readAttributes]
    simp only [Cursor.skipSpaces_shift]
    split
    · rename_i hs
      exact absurd hs hne
    · rename_i s hs
      exact absurd hs (hopen s)
    · rename_i s hs
      exact absurd hs (hclosed s)
    · split
      · rename_i e' he'
        rw [hread] at he'
        cases he'
        rfl
      · rename_i he'
        rw [hread] at he'
        cases he'
  | case5 read c c₁ a c₂ hread hne hopen hclosed ih =>
    have hread' := Attribute.read_shift n tag c₁
    rw [hread] at hread'
    rw [Tag.readAttributes_of_read (Cursor.skipSpaces_shift n c)
      (fun s => ⟨hopen s, hclosed s⟩) hread']
    exact ih

namespace State

/-- So is a raw body. -/
lemma readRaw_shift (name : Text) (start : Nat) (c : Cursor) :
    readRaw name (n + start) (c.shift n) =
      moved n (fun r => (Node.shiftAll n r.1, r.2.shift n)) (readRaw name start c) := by
  simp only [readRaw, Cursor.rest_shift, Cursor.offset_shift]
  split
  · rfl
  · rename_i body after hfound
    have hskip : Cursor.skipSpaces ⟨after, n + c.offset + body.size + 2 + name.size⟩ =
        (Cursor.skipSpaces ⟨after, c.offset + body.size + 2 + name.size⟩).shift n := by
      rw [← Cursor.skipSpaces_shift]
      simp [Cursor.shift, Nat.add_assoc]
    simp only [hskip, Cursor.rest_shift, Cursor.offset_shift]
    split
    · split_ifs <;> simp [moved, Cursor.shift, Node.shiftAll, Node.shift, Span.shift, Nat.add_assoc]
    · simp [moved, Error.shift, Nat.add_assoc]

/-! ### Parses within other ones -/

/-- The innermost open list and the open elements of a parse, `n` bytes further to the right, on
top of the nodes `below`, latest first, and of the open elements `frames`. -/
def onTop (below : List Node) (frames : List Frame) :
    List Node → List Frame → List Node × List Frame
  | done, [] => (Node.shiftAll n done ++ below, frames)
  | done, frame :: stack =>
    let outer := onTop below frames frame.before stack
    (Node.shiftAll n done, ⟨frame.tag.shift n, n + frame.start, outer.1⟩ :: outer.2)

/-- The same parse `n` bytes further to the right, where the nodes `below` are read already, latest
first, and the elements `frames` are open around it. -/
def place (below : List Node) (frames : List Frame) (st : State) : State :=
  let top := onTop n below frames st.done st.stack
  ⟨top.1, top.2, st.cursor.shift n⟩

variable {n} {below : List Node} {frames : List Frame} {st st' : State}

/-- The cursor of a state that is put in its place. -/
@[simp] lemma cursor_place : (st.place n below frames).cursor = st.cursor.shift n := rfl

/-- A node that is read goes on top of what was there before. -/
@[simp] lemma onTop_cons (node : Node) (done : List Node) (stack : List Frame) :
    onTop n below frames (node :: done) stack =
      (node.shift n :: (onTop n below frames done stack).1,
        (onTop n below frames done stack).2) := by
  cases stack <;> rfl

/-- A node may be added before the state is put in its place, or after. -/
lemma place_push (node : Node) (c : Cursor) :
    (st.push node c).place n below frames =
      (st.place n below frames).push (node.shift n) (c.shift n) := by
  simp [place, push]

/-- So may a text be read. -/
lemma readText_place (c : Char) (s : Text) :
    (st.place n below frames).readText c s = (st.readText c s).place n below frames := by
  simp only [readText, place_push, cursor_place, Cursor.advance_shift, Cursor.offset_shift,
    Node.shift, Span.shift]

/-- So may an expression. -/
lemma readExpression_place :
    (st.place n below frames).readExpression =
      moved n (place n below frames) st.readExpression := by
  simp only [readExpression, cursor_place, Cursor.rest_shift, Cursor.offset_shift]
  split
  · rfl
  · simp [moved, place_push, Node.shift, Span.shift, Cursor.shift, Nat.add_assoc]

/-- So may a comment. -/
lemma readComment_place (opening closing body : Text) :
    (st.place n below frames).readComment opening closing body =
      moved n (place n below frames) (st.readComment opening closing body) := by
  simp only [readComment, cursor_place, Cursor.offset_shift]
  split
  · rfl
  · simp [moved, place_push, Node.shift, Span.shift, Cursor.shift, Nat.add_assoc]

/-- So may the opening of an element. -/
lemma openElement_place (s : Text) :
    (st.place n below frames).openElement s =
      moved n (place n below frames) (st.openElement s) := by
  have hread := Tag.readAttributes_shift n (s.takeWhile isNameChar) st.cursor.offset []
    ⟨s.dropWhile isNameChar, st.cursor.offset + 1 + Text.size (s.takeWhile isNameChar)⟩
  simp only [List.map_nil, Cursor.shift] at hread
  simp only [openElement, cursor_place, Cursor.offset_shift, Nat.add_assoc] at hread ⊢
  rw [hread]
  cases Tag.readAttributes _ _ _ _ with
  | error e => rfl
  | ok r =>
    obtain ⟨attributes, closed, c⟩ := r
    simp only [moved]
    split_ifs with hclosed hraw
    · simp [place_push, Node.shift, Node.shiftAll, Tag.shift, Span.shift, Cursor.shift]
    · have hbody := readRaw_shift n (s.takeWhile isNameChar) st.cursor.offset c
      simp only [Cursor.shift] at hbody
      rw [hbody]
      cases readRaw _ _ _ with
      | error e => rfl
      | ok r => simp [moved, place_push, Node.shift, Tag.shift, Span.shift, Cursor.shift]
    · rfl

/-- So may the closing of one, unless it could close one that was open before. -/
lemma closeElement_place (s : Text) (h : frames = [] ∨ ∃ st', st.closeElement s = .ok st') :
    (st.place n below frames).closeElement s =
      moved n (place n below frames) (st.closeElement s) := by
  obtain ⟨done, stack, c⟩ := st
  simp only [closeElement, cursor_place, Cursor.offset_shift, Nat.add_assoc] at h ⊢
  have hskip : Cursor.skipSpaces ⟨s.dropWhile isNameChar,
      n + (c.offset + (2 + Text.size (s.takeWhile isNameChar)))⟩ =
      (Cursor.skipSpaces ⟨s.dropWhile isNameChar,
        c.offset + (2 + Text.size (s.takeWhile isNameChar))⟩).shift n :=
    Cursor.skipSpaces_shift n ⟨_, _⟩
  rw [hskip, Cursor.rest_shift, Cursor.offset_shift]
  split
  · rename_i after hafter
    rw [hafter] at h
    cases stack with
    | nil =>
      obtain rfl : frames = [] := by simpa using h
      rfl
    | cons frame stack =>
      simp only [place, onTop, Tag.shift]
      split_ifs with hname
      · simp [moved, place, Node.shift, Span.shift, Cursor.shift, Tag.shift, Nat.add_assoc]
      · rfl
  · rfl

/-- A step that reads no close tag does not depend on what came before it. -/
lemma step_place_of_ne_close (h : ∀ s, st.cursor.rest ≠ '<' :: '/' :: s) :
    (st.place n below frames).step = moved n (place n below frames) st.step := by
  unfold step
  simp only [cursor_place, Cursor.rest_shift]
  split
  · rfl
  · rename_i s hs
    exact absurd hs (h s)
  · exact readComment_place _ _ _
  · exact readComment_place _ _ _
  · exact readExpression_place
  · split_ifs
    · exact openElement_place _
    · rw [readText_place]
      rfl

/-- Where a close tag starts, the step reads it. -/
lemma step_of_close {s : Text} (hrest : st.cursor.rest = '<' :: '/' :: s) :
    st.step = st.closeElement s := by
  simp [step, hrest]

/-- **A step does not depend on what came before it**, but for a close tag that finds nothing open:
what it reads within another parse is what it reads on its own, further to the right. -/
theorem step_place (h : frames = [] ∨ ∃ st', st.step = .ok st') :
    (st.place n below frames).step = moved n (place n below frames) st.step := by
  by_cases hclose : ∃ s, st.cursor.rest = '<' :: '/' :: s
  · obtain ⟨s, hs⟩ := hclose
    have hplaced : (st.place n below frames).step = (st.place n below frames).closeElement s :=
      step_of_close hs
    rw [step_of_close hs] at h ⊢
    rw [hplaced]
    exact closeElement_place s h
  · exact step_place_of_ne_close fun s hs => hclose ⟨s, hs⟩

/-! ### Runs of a parse -/

/-- **Some steps of a parse**, each of which has something to read. -/
def Steps : State → State → Prop :=
  Relation.ReflTransGen fun st st' => st.cursor.rest ≠ [] ∧ st.step = .ok st'

/-- A parse goes on after some steps. -/
lemma Steps.run_eq (h : st.Steps st') : st.run = st'.run := by
  induction h with
  | refl => rfl
  | tail _ hstep ih => rw [ih, run_of_step hstep.1 hstep.2]

/-- Steps read the same things with more text behind them, unless the last one reads a text up to
the end of the source and that text would not end there.

**Proof sketch.** Only the last step may leave nothing to read, as all others are followed by a
step. -/
lemma Steps.extend {t : Text} (h : st.Steps st')
    (hends : st'.cursor.rest = [] → (∃ node ∈ st'.done.head?, node.isText = true) → TextEnds t) :
    (st.extend t).Steps (st'.extend t) := by
  induction h with
  | refl => exact .refl
  | tail _ hstep ih =>
    refine .tail (ih fun hrest => absurd hrest hstep.1) ⟨?_, step_extend t hstep.1 hstep.2 hends⟩
    simp [State.extend, hstep.1]

/-- Steps read the same things further to the right and within other elements. -/
lemma Steps.place (n : Nat) (below : List Node) (frames : List Frame) (h : st.Steps st') :
    (st.place n below frames).Steps (st'.place n below frames) := by
  induction h with
  | refl => exact .refl
  | tail _ hstep ih =>
    refine .tail ih ⟨hstep.1, ?_⟩
    rw [step_place (.inr ⟨_, hstep.2⟩), hstep.2]
    rfl

/-- **A parse that comes to its end does so by steps**: in the end everything is read and nothing is
open. -/
lemma steps_of_run {source : Text} {nodes : List Node} (hfaithful : st.Faithful source)
    (hrun : st.run = .ok nodes) : st.Steps ⟨nodes.reverse, [], ⟨[], source.size⟩⟩ := by
  fun_induction State.run st with
  | case1 st hrest hstack =>
    obtain ⟨before, hbefore, hsize⟩ := hfaithful.cursor_in
    rw [hrest, List.append_nil] at hbefore
    simp only [Except.ok.injEq] at hrun
    obtain ⟨done, stack, rest, offset⟩ := st
    simp only at hrest hstack hsize hrun
    rw [← hrun, List.reverse_reverse, hrest, hstack, hbefore, hsize]
    exact .refl
  | case2 => simp at hrun
  | case3 => simp at hrun
  | case4 st hrest st₁ hstep ih =>
    exact .head ⟨hrest, hstep⟩ (ih (hfaithful.step hstep) hrun)

/-- What is read and what is left make up the source. -/
lemma Faithful.offset_add_size {source : Text} (h : st.Faithful source) :
    st.cursor.offset + st.cursor.rest.size = source.size :=
  h.cursor_in.offset_add_size

/-- Steps keep a parse faithful. -/
lemma Steps.faithful {source : Text} (h : st.Steps st') (hfaithful : st.Faithful source) :
    st'.Faithful source := by
  induction h with
  | refl => exact hfaithful
  | tail _ hstep ih => exact ih.step hstep.2

/-- A run of a parse on top of some nodes adds what it reads on its own.

**Proof sketch.** Induction along the run; `step_place` says what each step does, also where it
fails. -/
lemma run_place (st : State) : (st.place n below []).run =
    moved n (fun nodes => below.reverse ++ Node.shiftAll n nodes) st.run := by
  fun_induction State.run st with
  | case1 st hrest hstack =>
    rw [run, dif_pos (by simpa using hrest)]
    simp [place, onTop, hstack, moved]
  | case2 st hrest frame stack hstack =>
    rw [run, dif_pos (by simpa using hrest)]
    simp [place, onTop, hstack, moved, Error.shift, Tag.shift]
  | case3 st hrest e herror =>
    have hstep : (st.place n below []).step = moved n (place n below []) st.step :=
      step_place (.inl rfl)
    rw [herror] at hstep
    rw [run, dif_neg (by simpa using hrest)]
    split
    · rename_i e' he'
      rw [hstep] at he'
      cases he'
      rfl
    · rename_i he'
      rw [hstep] at he'
      cases he'
  | case4 st hrest st₁ hok ih =>
    have hstep : (st.place n below []).step = moved n (place n below []) st.step :=
      step_place (.inl rfl)
    rw [hok] at hstep
    rw [run_of_step (by simpa using hrest) hstep, ih]

end State

/-! ### Whole sources -/

/-- A source that is read without an error is read by steps. -/
lemma State.steps_of_parse {source : Text} {document : Document}
    (h : parse source = .ok document) :
    State.Steps ⟨[], [], ⟨source, 0⟩⟩ ⟨document.nodes.reverse, [], ⟨[], source.size⟩⟩ := by
  unfold parse at h
  split at h
  · simp at h
  · rename_i nodes hrun
    simp only [Except.ok.injEq] at h
    subst h
    exact steps_of_run (faithful_start source) hrun

/-- **What follows a source is read as if it stood alone**, if the source does not end in text: its
nodes, and its error if it has one, are the same further to the right.

**Proof sketch.** The steps that read the first source read it with the other one behind it as
well, by `State.Steps.extend`. What is left is the run of the other one on top of the nodes that
were read, by `State.run_place`. -/
theorem parse_append {source : Text} {document : Document} (h : parse source = .ok document)
    (hlast : ∀ node ∈ document.nodes.getLast?, node.isText = false) (rest : Text) :
    parse (source ++ rest) = match parse rest with
      | .ok document' => .ok ⟨document.nodes ++ Node.shiftAll source.size document'.nodes,
          ⟨0, (source ++ rest).size⟩⟩
      | .error e => .error (e.shift source.size) := by
  have hsteps := (State.steps_of_parse h).extend (t := rest) (by
    rintro - ⟨node, hnode, htext⟩
    rw [hlast node (by simpa using hnode)] at htext
    cases htext)
  have hrun : State.run ⟨[], [], ⟨source ++ rest, 0⟩⟩ =
      State.run (State.place source.size document.nodes.reverse [] ⟨[], [], ⟨rest, 0⟩⟩) :=
    hsteps.run_eq
  rw [State.run_place, List.reverse_reverse] at hrun
  unfold parse
  rw [hrun]
  cases State.run ⟨[], [], ⟨rest, 0⟩⟩ with
  | error e => rfl
  | ok nodes => rfl

/-- The source `body` between the tags of an element `name` without attributes. -/
def enclosed (name body : Text) : Text :=
  '<' :: name ++ '>' :: body ++ "</".toList ++ name ++ ">".toList

/-- **A source is read within an element as if it stood alone**: its nodes are the children of that
element, further to the right.

**Proof sketch.** The opening tag leaves the element open. The steps that read the source then
read it with the close tag behind it, where text ends, and with the element open around it, by
`State.Steps.extend` and `State.Steps.place`. The places after the two tags follow from what is
left to read there, as the parse is faithful. -/
theorem parse_enclosed {name body : Text} {document : Document} (hname : IsElementName name)
    (hvoid : isVoid name = false) (hraw : isRaw name = false) (h : parse body = .ok document) :
    parse (enclosed name body) = .ok
      ⟨[.element ⟨name, [], false⟩ (Node.shiftAll (name.size + 2) document.nodes)
        ⟨0, (enclosed name body).size⟩], ⟨0, (enclosed name body).size⟩⟩ := by
  have hends : TextEnds ("</".toList ++ (name ++ ">".toList)) := by
    simp [textEnds_cons, startsMarkup]
  have hopen : State.step ⟨[], [], ⟨enclosed name body, 0⟩⟩ = .ok ⟨[], [⟨⟨name, [], false⟩, 0, []⟩],
      ⟨body ++ ("</".toList ++ (name ++ ">".toList)), name.size + 2⟩⟩ := by
    have htag : Tag.WellFormed ⟨name, [], false⟩ := ⟨hname, by simp [hvoid], by simp⟩
    obtain ⟨as, ⟨rest, offset⟩, hsame, rfl, hstep⟩ := State.step_render htag.legible false
      (fun _ => htag.not_endsInSlash) [] [] 0 (body ++ ("</".toList ++ (name ++ ">".toList)))
    obtain rfl : as = [] := by simpa using hsame
    have hsource : Tag.render ⟨name, [], false⟩ ++
        (tagEnd false ++ (body ++ ("</".toList ++ (name ++ ">".toList)))) = enclosed name body := by
      simp [Tag.render, tagEnd, enclosed]
    rw [hsource] at hstep
    simp only [hvoid, hraw, Bool.or_self, Bool.false_eq_true, if_false] at hstep
    have hrest : (enclosed name body).size =
        name.size + 2 + Text.size (body ++ ("</".toList ++ (name ++ ">".toList))) := by
      have hlt : '<'.utf8Size = 1 := rfl
      have hgt : '>'.utf8Size = 1 := rfl
      simp only [enclosed, Text.size_append, Text.size_cons]
      omega
    have hsize := ((State.faithful_start _).step hstep).offset_add_size
    obtain rfl : offset = name.size + 2 := by
      simp only at hsize
      omega
    exact hstep
  have hbody := ((State.steps_of_parse h).extend fun _ _ => hends).place (name.size + 2) []
    [⟨⟨name, [], false⟩, 0, []⟩]
  obtain ⟨stop, hclose⟩ := State.step_close hname.2 ⟨⟨name, [], false⟩, 0, []⟩ rfl
    (Node.shiftAll (name.size + 2) document.nodes.reverse ++ []) [] (name.size + 2 + body.size) []
  have hsteps := Relation.ReflTransGen.head ⟨by simp [enclosed], hopen⟩
    (hbody.tail ⟨by simp [State.extend], hclose⟩)
  have hstop := (State.Steps.faithful hsteps (State.faithful_start _)).offset_add_size
  obtain rfl : stop = (enclosed name body).size := by simpa using hstop
  unfold parse
  rw [State.Steps.run_eq hsteps, State.run_end]
  simp

/-- **Reading is compositional**: it goes through what follows a source, if the source does not end
in text, and through what stands between the tags of an element, as through a source of its own. -/
theorem parse_composes :
    (∀ (source rest : Text) (document : Document), parse source = .ok document →
      (∀ node ∈ document.nodes.getLast?, node.isText = false) →
      parse (source ++ rest) = match parse rest with
        | .ok document' => .ok ⟨document.nodes ++ Node.shiftAll source.size document'.nodes,
            ⟨0, (source ++ rest).size⟩⟩
        | .error e => .error (e.shift source.size)) ∧
    (∀ (name body : Text) (document : Document), IsElementName name → isVoid name = false →
      isRaw name = false → parse body = .ok document →
      parse (enclosed name body) = .ok
        ⟨[.element ⟨name, [], false⟩ (Node.shiftAll (name.size + 2) document.nodes)
          ⟨0, (enclosed name body).size⟩], ⟨0, (enclosed name body).size⟩⟩) :=
  ⟨fun _ rest _ h hlast => parse_append h hlast rest,
    fun _ _ _ hname hvoid hraw h => parse_enclosed hname hvoid hraw h⟩

/-- A line break before a character of two bytes and a rule, before a stray close tag, and a text
that ends in a bracket within a quotation. -/
theorem parse_composes_line_break :
    parse ("<br>".toList ++ "é<hr>".toList) = .ok
      ⟨[.element ⟨"br".toList, [], true⟩ [] ⟨0, 4⟩, .text "é".toList ⟨4, 6⟩,
        .element ⟨"hr".toList, [], true⟩ [] ⟨6, 10⟩], ⟨0, 10⟩⟩ ∧
    parse ("<br>".toList ++ "é</p>".toList) = .error ⟨6, .unexpectedClosingTag "p".toList⟩ ∧
    parse (enclosed "q".toList "a<".toList) = .ok
      ⟨[.element ⟨"q".toList, [], false⟩ [.text "a<".toList ⟨3, 5⟩] ⟨0, 9⟩], ⟨0, 9⟩⟩ := by
  have hbreak : parse "<br>".toList =
      .ok ⟨[.element ⟨"br".toList, [], true⟩ [] ⟨0, 4⟩], ⟨0, 4⟩⟩ := by
    decide +kernel
  have hrule : parse "é<hr>".toList = .ok
      ⟨[.text "é".toList ⟨0, 2⟩, .element ⟨"hr".toList, [], true⟩ [] ⟨2, 6⟩], ⟨0, 6⟩⟩ := by
    decide +kernel
  have hclose : parse "é</p>".toList = .error ⟨2, .unexpectedClosingTag "p".toList⟩ := by
    decide +kernel
  have htext : parse "a<".toList = .ok ⟨[.text "a<".toList ⟨0, 2⟩], ⟨0, 2⟩⟩ := by
    decide +kernel
  refine ⟨?_, ?_, ?_⟩
  · rw [parse_composes.1 _ _ _ hbreak (by decide), hrule]
    rfl
  · rw [parse_composes.1 _ _ _ hbreak (by decide), hclose]
    rfl
  · exact parse_composes.2 _ _ _ ⟨⟨'q', rfl, rfl⟩, by simp [isNameChar]⟩ (by decide) (by decide)
      htext

end Markup

end OneFile
