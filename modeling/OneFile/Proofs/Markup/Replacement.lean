import OneFile.Proofs.Markup.Truncation

/-!
# Raw bodies do not leak

Whatever text takes the place of the body of an element that is read raw, as long as the text does
not hold the start of the close tag: the source around it is read as before, and the places behind
it move by as much as its end does.

## Main definitions

* `OneFile.Markup.Replacement` — a text that takes the place of the body of an element.
* `OneFile.Markup.Node.replace`, `OneFile.Markup.Node.replaceAll` — what becomes of a tree.
* `OneFile.Markup.RawBody` — the body of an element in a source, with what is around it.

## Main results

* `OneFile.Markup.State.step_replace` — behind the body, every step reads what it read before.
* `OneFile.Markup.State.Steps.replace_body` — so do all steps of a parse, but for the body.
* `OneFile.Markup.parse_replace` — a source with another raw body is read as the old tree, with
  that body.

## Design

A parse goes through three phases. Up to the body it has not looked at any of it, which is a matter
of taking the rest of the source away and putting another one behind. The body itself is looked for
its close tag only. Behind it, nothing but the places of what was read before differs, and no step
depends on them.
-/

namespace OneFile.Markup

/-! ### What a replacement does to a tree -/

/-- A text that takes the place of the body of an element. -/
structure Replacement where
  /-- Where the element stands. -/
  element : Span
  /-- Where its body stands. -/
  body : Span
  /-- The new body. -/
  text : Text

namespace Replacement

variable (r : Replacement)

/-- Where an offset moves to: one that does not come before the end of the old body keeps its
distance to the end of the body. -/
def move (offset : Nat) : Nat :=
  if offset < r.body.stop then offset else r.body.start + r.text.size + (offset - r.body.stop)

/-- Where a span moves to. -/
def moveSpan (span : Span) : Span := ⟨r.move span.start, r.move span.stop⟩

/-- The element comes before the end of its body. -/
def Proper : Prop := r.element.start < r.body.stop

variable {r}

/-- A place behind the body moves by as much as the end of the body. -/
lemma move_add (k : Nat) : r.move (r.body.stop + k) = r.body.start + r.text.size + k := by
  rw [move, if_neg (by omega), Nat.add_sub_cancel_left]

/-- What comes before the end of the old body stays. -/
lemma move_of_lt {offset : Nat} (h : offset < r.body.stop) : r.move offset = offset := if_pos h

/-- So does a span that ends before the end of the old body. -/
lemma moveSpan_of_lt {span : Span} (hle : span.start ≤ span.stop) (h : span.stop < r.body.stop) :
    r.moveSpan span = span := by
  rw [moveSpan, move_of_lt h, move_of_lt (by omega)]

/-- And one that ends before the element of that body. -/
lemma moveSpan_of_before {span : Span} (hr : r.Proper) (hlt : span.start < span.stop)
    (hle : span.stop ≤ r.element.start) : r.moveSpan span = span :=
  moveSpan_of_lt hlt.le (hle.trans_lt hr)

/-- A span behind the old body comes to stand behind the new one. -/
lemma moveSpan_shift (span : Span) :
    r.moveSpan (span.shift r.body.stop) = span.shift (r.body.start + r.text.size) := by
  simp only [moveSpan, Span.shift, move_add]

end Replacement

variable (r : Replacement)

/-- The attribute after a replacement. -/
def Attribute.replace (a : Attribute) : Attribute := { a with span := r.moveSpan a.span }

/-- The opening tag after a replacement. -/
def Tag.replace (tag : Tag) : Tag :=
  { tag with attributes := tag.attributes.map (Attribute.replace r) }

namespace Node

mutual

/-- **The node after a replacement**: the element whose body is replaced has the new one instead of
its children, and all spans move. -/
def replace : Node → Node
  | .element tag children span =>
    .element (tag.replace r)
      (if span = r.element then rawNodes r.text r.body.start else replaceAll children)
      (r.moveSpan span)
  | .text value span => .text value (r.moveSpan span)
  | .expression source span => .expression source (r.moveSpan span)
  | .comment value span => .comment value (r.moveSpan span)

/-- The nodes after a replacement. -/
def replaceAll : List Node → List Node
  | [] => []
  | node :: nodes => replace node :: replaceAll nodes

end

/-- Nodes are replaced one by one. -/
lemma replaceAll_eq_map (nodes : List Node) : replaceAll r nodes = nodes.map (replace r) := by
  induction nodes with
  | nil => rfl
  | cons node nodes ih => rw [replaceAll, ih, List.map_cons]

/-- So lists may be replaced before they are joined, or after. -/
@[simp] lemma replaceAll_append (nodes nodes' : List Node) :
    replaceAll r (nodes ++ nodes') = replaceAll r nodes ++ replaceAll r nodes' := by
  simp [replaceAll_eq_map]

/-- So they may before they are reversed, or after. -/
@[simp] lemma replaceAll_reverse (nodes : List Node) :
    replaceAll r nodes.reverse = (replaceAll r nodes).reverse := by
  simp [replaceAll_eq_map]

end Node

variable {r}

/-! ### What stands behind the body -/

/-- An opening tag behind the old body comes to stand behind the new one. -/
lemma Tag.replace_shift (tag : Tag) :
    (tag.shift r.body.stop).replace r = tag.shift (r.body.start + r.text.size) := by
  simp only [Tag.shift, Tag.replace, List.map_map]
  congr 1
  refine List.map_congr_left fun a _ => ?_
  simp only [Function.comp_apply, Attribute.shift, Attribute.replace, Replacement.moveSpan_shift]

namespace Node

mutual

/-- A node behind the old body comes to stand behind the new one. -/
lemma replace_shift (hr : r.Proper) : ∀ node : Node,
    (node.shift r.body.stop).replace r = node.shift (r.body.start + r.text.size)
  | .element tag children span => by
    have hne : span.shift r.body.stop ≠ r.element := by
      intro heq
      have hstart := congrArg Span.start heq
      simp only [Span.shift] at hstart
      unfold Replacement.Proper at hr
      omega
    rw [shift, replace, if_neg hne, replaceAll_shiftAll hr children, Tag.replace_shift,
      Replacement.moveSpan_shift, shift]
  | .text value span => by rw [shift, replace, Replacement.moveSpan_shift, shift]
  | .expression source span => by rw [shift, replace, Replacement.moveSpan_shift, shift]
  | .comment value span => by rw [shift, replace, Replacement.moveSpan_shift, shift]

/-- So do all nodes of a list. -/
lemma replaceAll_shiftAll (hr : r.Proper) : ∀ nodes : List Node,
    replaceAll r (shiftAll r.body.stop nodes) = shiftAll (r.body.start + r.text.size) nodes
  | [] => rfl
  | node :: nodes => by
    rw [shiftAll, replaceAll, replace_shift hr node, replaceAll_shiftAll hr nodes, shiftAll]

end

end Node

/-- The open element after a replacement. -/
def Frame.replace (r : Replacement) (frame : Frame) : Frame :=
  ⟨frame.tag.replace r, r.move frame.start, Node.replaceAll r frame.before⟩

namespace State

variable {st st' : State}

/-- The parse after a replacement. -/
def replace (r : Replacement) (st : State) : State :=
  ⟨Node.replaceAll r st.done, st.stack.map (Frame.replace r),
    ⟨st.cursor.rest, r.move st.cursor.offset⟩⟩

/-- What is open in a parse behind the old body comes to stand behind the new one. -/
lemma onTop_replace (hr : r.Proper) (below : List Node) (frames : List Frame) (done : List Node)
    (stack : List Frame) :
    onTop (r.body.start + r.text.size) (Node.replaceAll r below) (frames.map (Frame.replace r))
        done stack =
      (Node.replaceAll r (onTop r.body.stop below frames done stack).1,
        (onTop r.body.stop below frames done stack).2.map (Frame.replace r)) := by
  induction stack generalizing done with
  | nil =>
    rw [onTop, onTop, Node.replaceAll_append, Node.replaceAll_shiftAll hr]
  | cons frame stack ih =>
    simp only [onTop, ih, Node.replaceAll_shiftAll hr, List.map_cons, Frame.replace,
      Tag.replace_shift, Replacement.move_add]

/-- A parse behind the old body comes to stand behind the new one, on top of what was read before
the old one. -/
lemma place_replace (hr : r.Proper) (below : List Node) (frames : List Frame) (st : State) :
    (st.place r.body.stop below frames).replace r =
      st.place (r.body.start + r.text.size) (Node.replaceAll r below)
        (frames.map (Frame.replace r)) := by
  simp only [place, replace, onTop_replace hr, Cursor.rest_shift, Cursor.offset_shift,
    Replacement.move_add]
  rfl

/-- **A parse is behind the replaced body**: so is its cursor, and the element of that body is not
open. -/
structure Behind (r : Replacement) (st : State) : Prop where
  stop_le : r.body.stop ≤ st.cursor.offset
  closed : ∀ frame ∈ st.stack, frame.start ≠ r.element.start

/-- A close tag behind the replaced body is read as before. -/
lemma closeElement_replace {s : Text} (hbehind : st.Behind r)
    (h : st.closeElement s = .ok st') : (st.replace r).closeElement s = .ok (st'.replace r) := by
  obtain ⟨done, stack, rest, offset⟩ := st
  obtain ⟨hle, hclosed⟩ := hbehind
  obtain ⟨k, rfl⟩ := Nat.exists_eq_add_of_le hle
  have hskip : ∀ n, Cursor.skipSpaces ⟨s.dropWhile isNameChar,
      n + k + 2 + Text.size (s.takeWhile isNameChar)⟩ =
      (Cursor.skipSpaces ⟨s.dropWhile isNameChar,
        k + 2 + Text.size (s.takeWhile isNameChar)⟩).shift n := by
    intro n
    rw [← Cursor.skipSpaces_shift]
    simp [Cursor.shift, Nat.add_assoc]
  simp only [closeElement, replace, Replacement.move_add, hskip, Cursor.rest_shift,
    Cursor.offset_shift] at h ⊢
  split at h
  · rename_i after hafter
    split at h
    · simp at h
    · rename_i frame stack
      split_ifs at h with hname
      simp only [Except.ok.injEq] at h
      subst h
      have hne : ∀ stop, (⟨frame.start, stop⟩ : Span) ≠ r.element := by
        intro stop heq
        exact hclosed frame (by simp) (congrArg Span.start heq)
      have hname' : (frame.replace r).tag.name = s.takeWhile isNameChar := hname
      simp only [List.map_cons, if_pos hname']
      simp only [Node.replaceAll, Node.replace, if_neg (hne _), Node.replaceAll_reverse,
        Replacement.moveSpan, Nat.add_assoc, Replacement.move_add]
      rfl
  · simp at h

/-- **Behind the replaced body every step reads what it read before.**

**Proof sketch.** A close tag closes an element that is not the one of the body. All other steps
add to the parse what they would add to an empty one (`step_place_of_ne_close`). -/
theorem step_replace (hr : r.Proper) (hbehind : st.Behind r) (h : st.step = .ok st') :
    (st.replace r).step = .ok (st'.replace r) := by
  by_cases hclose : ∃ s, st.cursor.rest = '<' :: '/' :: s
  · obtain ⟨s, hs⟩ := hclose
    have hreplaced : (st.replace r).step = (st.replace r).closeElement s := step_of_close hs
    rw [step_of_close hs] at h
    rw [hreplaced]
    exact closeElement_replace hbehind h
  · obtain ⟨k, hk⟩ := Nat.exists_eq_add_of_le hbehind.stop_le
    have hother : ∀ s, st.cursor.rest ≠ '<' :: '/' :: s := fun s hs => hclose ⟨s, hs⟩
    obtain ⟨done, stack, rest, offset⟩ := st
    simp only at hk hother
    subst hk
    -- what the step does on its own, at a distance from the body
    have hplace : (⟨done, stack, rest, r.body.stop + k⟩ : State) =
        place r.body.stop done stack ⟨[], [], rest, k⟩ := rfl
    rw [hplace, step_place_of_ne_close hother] at h
    cases hbase : step ⟨[], [], rest, k⟩ with
    | error e => simp [hbase, moved] at h
    | ok base =>
      obtain rfl : place r.body.stop done stack base = st' := by simpa [hbase, moved] using h
      rw [hplace, place_replace hr, place_replace hr, step_place_of_ne_close hother, hbase]
      rfl

/-- Behind the replaced body every step stays behind it. -/
lemma Behind.step {source : Text} (h : st.Behind r) (hr : r.Proper) (hfaithful : st.Faithful source)
    (hne : st.cursor.rest ≠ []) (hstep : st.step = .ok st') : st'.Behind r where
  stop_le := by
    obtain ⟨piece, hpiece⟩ := hfaithful.before_of_step hne hstep
    exact h.stop_le.trans (by rw [hpiece.offset_eq]; exact Nat.le_add_right _ _)
  closed := by
    intro frame hframe
    rcases (turn_of_step hne hstep).mem_stack hframe with hframe | hstart
    · exact h.closed frame hframe
    · have hle := h.stop_le
      unfold Replacement.Proper at hr
      omega

/-- **Behind the replaced body some steps read what they read before.** -/
lemma Steps.replace {source : Text} (h : st.Steps st') (hr : r.Proper) (hbehind : st.Behind r)
    (hfaithful : st.Faithful source) : (st.replace r).Steps (st'.replace r) := by
  have hall : st'.Behind r ∧ (st.replace r).Steps (st'.replace r) := by
    induction h with
    | refl => exact ⟨hbehind, .refl⟩
    | tail hsteps hstep ih =>
      obtain ⟨hbehind', hsteps'⟩ := ih
      exact ⟨hbehind'.step hr (Steps.faithful hsteps hfaithful) hstep.1 hstep.2,
        hsteps'.tail ⟨hstep.1, step_replace hr hbehind' hstep.2⟩⟩
  exact hall.2

end State

/-! ### What stands before the body -/

/-- The attributes of a tag end before its closing mark. -/
lemma AttributesStand.stop_lt {source mark : Text} {as : List Attribute} {start stop : Nat}
    (h : AttributesStand source mark as start stop) (hmark : mark ≠ []) :
    start < stop ∧ ∀ a ∈ as, a.span.start ≤ a.span.stop ∧ a.span.stop < stop := by
  induction h with
  | close _ hnames =>
    refine ⟨?_, by simp⟩
    have hpos := Text.size_pos hmark
    have hstop := hnames.stop_eq
    simp only [Text.size_append] at hstop
    omega
  | cons _ hnames ha _ ih =>
    obtain ⟨-, written, -, hspan⟩ := ha
    have hle := hspan.start_le_stop
    refine ⟨?_, ?_⟩
    · have := hnames.start_le_stop
      simp only at this
      omega
    · rintro b hb
      rcases List.mem_cons.1 hb with rfl | hb
      · exact ⟨hle, ih.1⟩
      · exact ih.2 b hb

/-- An opening tag that ends before the end of the old body stays. -/
lemma Tag.Stands.replace_eq_self {source : Text} {tag : Tag} {start stop : Nat}
    (h : tag.Stands source start stop) (hle : stop ≤ r.body.stop) : tag.replace r = tag := by
  obtain ⟨nameStop, closed, -, has, -⟩ := h
  have hmark : closingMark closed ≠ [] := by cases closed <;> simp [closingMark]
  have hall := (has.stop_lt hmark).2
  obtain ⟨name, attributes, selfClosing⟩ := tag
  simp only [Tag.replace, Tag.mk.injEq, true_and, and_true]
  refine (List.map_congr_left fun a ha => ?_).trans (List.map_id attributes)
  obtain ⟨hstart, hstop⟩ := hall a ha
  rw [Attribute.replace, Replacement.moveSpan_of_lt hstart (by omega)]
  rfl

/-- Every tile lies in the stretch that is covered. -/
lemma Tiles.mem {start stop : Nat} {spans : List Span} {span : Span} (h : Tiles start spans stop)
    (hspan : span ∈ spans) : start ≤ span.start ∧ span.start < span.stop ∧ span.stop ≤ stop := by
  induction spans generalizing start with
  | nil => simp at hspan
  | cons s spans ih =>
    obtain ⟨hstart, hlt, hrest⟩ := h
    rcases List.mem_cons.1 hspan with rfl | hspan
    · exact ⟨hstart.ge, by omega, hrest.start_le_stop⟩
    · obtain ⟨h₁, h₂, h₃⟩ := ih hrest hspan
      exact ⟨by omega, h₂, h₃⟩

/-- Nodes stay that each do. -/
lemma Node.replaceAll_eq_self {nodes : List Node} (h : ∀ node ∈ nodes, node.replace r = node) :
    replaceAll r nodes = nodes := by
  rw [replaceAll_eq_map]
  exact (List.map_congr_left h).trans (List.map_id nodes)

/-- **A node that ends before the element of the replaced body stays**, with everything below it.

**Proof sketch.** Induction on how the node stands in its source: its children end before it
does. -/
lemma Node.replace_eq_self {source : Text} {node : Node} (hr : r.Proper) (h : node.Stands source)
    (hlt : node.span.start < node.span.stop) (hle : node.span.stop ≤ r.element.start) :
    node.replace r = node := by
  induction h with
  | text =>
    rw [replace]
    exact congrArg _ (Replacement.moveSpan_of_before hr hlt hle)
  | expression =>
    rw [replace]
    exact congrArg _ (Replacement.moveSpan_of_before hr hlt hle)
  | comment =>
    rw [replace]
    exact congrArg _ (Replacement.moveSpan_of_before hr hlt hle)
  | declaration =>
    rw [replace]
    exact congrArg _ (Replacement.moveSpan_of_before hr hlt hle)
  | @closed tag span htag _ =>
    simp only [Node.span] at hlt hle
    have hne : span ≠ r.element := by
      rintro rfl
      omega
    rw [replace, if_neg hne, replaceAll, Replacement.moveSpan_of_before hr hlt hle,
      htag.replace_eq_self (hle.trans hr.le)]
  | @element tag children span opened closed gap htag hopen htiles hapart hchildren _ hnames ih =>
    simp only [Node.span] at hlt hle
    have hne : span ≠ r.element := by
      rintro rfl
      omega
    have hclosed : closed ≤ span.stop := hnames.start_le_stop
    have hopened : opened ≤ closed := htiles.start_le_stop
    have hsame : replaceAll r children = children := replaceAll_eq_self fun child hchild => by
      obtain ⟨-, hlt', hle'⟩ := htiles.mem (List.mem_map_of_mem hchild)
      exact ih child hchild hlt' (by omega)
    rw [replace, if_neg hne, hsame, Replacement.moveSpan_of_before hr hlt hle,
      htag.replace_eq_self ((hopened.trans hclosed).trans (hle.trans hr.le))]

/-- Siblings that end before the element of the replaced body stay. -/
lemma Siblings.replaceAll_eq_self {source : Text} {nodes : List Node} {start stop : Nat}
    (hr : r.Proper) (h : Siblings source start nodes stop) (hle : stop ≤ r.element.start) :
    Node.replaceAll r nodes = nodes :=
  Node.replaceAll_eq_self fun node hnode => by
    obtain ⟨-, hlt, hle'⟩ := h.tiles.mem (List.mem_map_of_mem hnode)
    exact Node.replace_eq_self hr (h.stand node hnode) hlt (hle'.trans hle)

namespace State

/-- The elements around the one of the replaced body stay, with what was read before it in each of
them, and they start before it. -/
lemma FramesStand.replace_eq_self {source : Text} {stack : List Frame} {base : Nat} (hr : r.Proper)
    (h : FramesStand source stack base) (hle : base ≤ r.element.start) :
    stack.map (Frame.replace r) = stack ∧ ∀ frame ∈ stack, frame.start ≠ r.element.start := by
  induction stack generalizing base with
  | nil => simp
  | cons frame stack ih =>
    obtain ⟨htag, -, outer, hsiblings, hbelow⟩ := h
    have hlt := htag.start_lt_stop
    have houter := hsiblings.tiles.start_le_stop
    obtain ⟨hstack, hstarts⟩ := ih hbelow (by omega)
    have hbefore : Node.replaceAll r frame.before = frame.before := by
      have hreverse := hsiblings.replaceAll_eq_self hr (by omega)
      rwa [Node.replaceAll_reverse, List.reverse_inj] at hreverse
    have hframe : frame.replace r = frame := by
      unfold Replacement.Proper at hr
      rw [Frame.replace, htag.replace_eq_self (by omega), hbefore,
        Replacement.move_of_lt (by omega)]
    refine ⟨by rw [List.map_cons, hframe, hstack], fun f hf => ?_⟩
    rcases List.mem_cons.1 hf with rfl | hf
    · omega
    · exact hstarts f hf

end State

/-! ### The body itself -/

/-- A close tag of the element `name`, with blanks before its bracket. -/
def closeTag (name gap : Text) : Text := "</".toList ++ name ++ gap ++ ">".toList

/-- **The body of an element in a source**, with what is before it and after it: it stands between
the opening tag and the first close tag of the element. -/
structure RawBody (source : Text) (tag : Tag) (span : Span) (before body after : Text) : Prop where
  source_eq : source = before ++ body ++ after
  opening : tag.Stands source span.start before.size
  closing : ∃ gap rest, gap.all Text.isSpace = true ∧ after = closeTag tag.name gap ++ rest ∧
    span.stop = (before ++ body ++ closeTag tag.name gap).size
  free : ¬ ("</".toList ++ tag.name) <:+: body

namespace State

variable {st st' : State}

/-- A raw body is read up to its close tag, if it does not hold the start of one. -/
lemma readRaw_append {name body gap : Text} (start offset : Nat) (rest : Text) (hname : '<' ∉ name)
    (hfree : ¬ ("</".toList ++ name) <:+: body) (hgap : gap.all Text.isSpace = true) :
    readRaw name start ⟨body ++ (closeTag name gap ++ rest), offset⟩ =
      .ok (rawNodes body offset, ⟨rest, offset + (body ++ closeTag name gap).size⟩) := by
  have hfirst : '<' ∉ '/' :: name := by simp [hname]
  have hfound := Text.breakOn_append (gap ++ '>' :: rest) hfirst hfree
  have hskip : ∀ n, Cursor.skipSpaces ⟨gap ++ '>' :: rest, n⟩ = ⟨'>' :: rest, n + gap.size⟩ :=
    fun n => Cursor.skipSpaces_append gap hgap rfl
  have hsource : body ++ (closeTag name gap ++ rest) =
      body ++ '<' :: ('/' :: name ++ (gap ++ '>' :: rest)) := by
    simp [closeTag]
  rw [hsource]
  refine readRaw_eq_ok_iff.2 ⟨body, gap ++ '>' :: rest, rest, hfound, by rw [hskip], rfl, ?_⟩
  have hopen : Text.size "</".toList = 2 := rfl
  have hclose : Text.size ">".toList = 1 := rfl
  simp only [hskip, closeTag, Text.size_append, hopen, hclose, Cursor.mk.injEq, true_and]
  omega

/-- The parse after an element with a raw body was read, from `opening` to `closing`. -/
def pushRaw (st : State) (tag : Tag) (opening body closing rest : Text) : State :=
  let stop := st.cursor.offset + (opening ++ body ++ closing).size
  st.push (.element tag (rawNodes body (st.cursor.offset + opening.size)) ⟨st.cursor.offset, stop⟩)
    ⟨rest, stop⟩

/-- The same parse with other text to read. -/
def withRest (st : State) (rest : Text) : State :=
  { st with cursor := ⟨rest, st.cursor.offset⟩ }

/-- **An element with a raw body is read piece by piece**, and it is read alike with another body,
as long as that does not hold the start of the close tag. -/
lemma ReadsRaw.exists_pieces {tag : Tag} {children : List Node} {span : Span}
    (h : st.ReadsRaw tag children span st') (hraw : isRaw tag.name = true)
    (hopen : tag.selfClosing = false) :
    ∃ opening body gap rest, st.cursor.rest = opening ++ (body ++ (closeTag tag.name gap ++ rest)) ∧
      opening ≠ [] ∧ opening.EndsInBracket ∧ gap.all Text.isSpace = true ∧
      ¬ ("</".toList ++ tag.name) <:+: body ∧
      (∀ source, st.cursor.In source →
        tag.Stands source st.cursor.offset (st.cursor.offset + opening.size)) ∧
      children = rawNodes body (st.cursor.offset + opening.size) ∧
      span = ⟨st.cursor.offset,
        st.cursor.offset + (opening ++ body ++ closeTag tag.name gap).size⟩ ∧
      st' = st.pushRaw tag opening body (closeTag tag.name gap) rest ∧
      ∀ text, ¬ ("</".toList ++ tag.name) <:+: text →
        (st.withRest (opening ++ (text ++ (closeTag tag.name gap ++ rest)))).step =
          .ok (st.pushRaw tag opening text (closeTag tag.name gap) rest) := by
  obtain ⟨s, ⟨crest, offset⟩, c', htag, hname, hvoid, hbody, rfl, rfl⟩ := h
  obtain ⟨opening, hreads, hne, hends, hswap⟩ := htag.exists_opening
  obtain ⟨body, after, rest, hfound, hrest, rfl, -⟩ := readRaw_eq_ok_iff.1 hbody
  obtain ⟨gap, hgap, hskip⟩ := Cursor.exists_reads_skipSpaces
    ⟨after, offset + body.size + 2 + tag.name.size⟩
  have hafter : after = gap ++ '>' :: rest := by
    rw [← hrest]
    exact hskip.rest_eq
  obtain rfl : crest = body ++ (closeTag tag.name gap ++ rest) := by
    have hsplit : crest = _ := Text.breakOn_eq_some hfound
    rw [hsplit, hafter]
    simp [closeTag]
  obtain rfl : offset = st.cursor.offset + opening.size := hreads.offset_eq
  have hfirst : '<' ∉ tag.name := by
    rw [hname]
    intro hmem
    exact absurd (List.mem_takeWhile_imp hmem) (by decide)
  have hfree := Text.not_infix_of_breakOn (by simp) hfound
  have hread : ∀ text : Text, ¬ ("</".toList ++ tag.name) <:+: text → _ :=
    fun text htext => readRaw_append st.cursor.offset (st.cursor.offset + opening.size) rest hfirst
      htext hgap
  obtain rfl : c' = ⟨rest, _⟩ := by
    have heq := hbody.symm.trans (hread body hfree)
    simp only [Except.ok.injEq, Prod.mk.injEq, true_and] at heq
    exact heq
  have hsize : ∀ text : Text, st.cursor.offset + opening.size +
      (text ++ closeTag tag.name gap).size =
        st.cursor.offset + (opening ++ text ++ closeTag tag.name gap).size := by
    intro text
    simp only [Text.size_append]
    omega
  refine ⟨opening, body, gap, rest, hreads.rest_eq, hne, hends, hgap, hfree, fun source hin => ?_,
    rfl, ?_, ?_, fun text htext => ?_⟩
  · have hstands := htag.stands hin
    rw [← hname, hvoid, Bool.or_self, ← hopen] at hstands
    exact hstands
  · rw [hsize]
  · simp only [pushRaw, hsize]
  · obtain ⟨s', htag', hname'⟩ := hswap (text ++ (closeTag tag.name gap ++ rest))
    obtain ⟨name, attributes, selfClosing⟩ := tag
    obtain rfl : name = s'.takeWhile isNameChar := hname.trans hname'.symm
    obtain rfl : selfClosing = false := hopen
    have hstep := htag'.step_raw hvoid hraw (hread text htext)
    simp only [hsize] at hstep
    exact hstep

/-- What is read before a place is read alike whatever follows that place, if something is left
before it that ends in a closing bracket. -/
lemma Steps.swap {before opening tail : Text} {st : State}
    (h : Steps ⟨[], [], ⟨before ++ opening ++ tail, 0⟩⟩ st)
    (hrest : st.cursor.rest = opening ++ tail) (hends : opening.EndsInBracket)
    (hne : opening ≠ []) (u : Text) :
    Steps ⟨[], [], ⟨before ++ opening ++ u, 0⟩⟩ (st.withRest (opening ++ u)) := by
  obtain ⟨done, stack, rest, offset⟩ := st
  obtain rfl : rest = opening ++ tail := hrest
  have hsteps : (State.extend tail ⟨[], [], ⟨before ++ opening, 0⟩⟩).Steps
      (State.extend tail ⟨done, stack, ⟨opening, offset⟩⟩) := h
  have halone := Steps.of_extend hsteps (faithful_start _) hends hne
  exact Steps.extend halone fun hnil => absurd hnil hne

/-- An element with another raw body is what the replacement makes of it. -/
lemma pushRaw_replace {source : Text} {tag : Tag} {opening body closing : Text} (rest : Text)
    (hfaithful : st.Faithful source)
    (htag : tag.Stands source st.cursor.offset (st.cursor.offset + opening.size))
    (helement : r.element =
      ⟨st.cursor.offset, st.cursor.offset + (opening ++ body ++ closing).size⟩)
    (hbody : r.body =
      ⟨st.cursor.offset + opening.size, st.cursor.offset + opening.size + body.size⟩) :
    r.Proper ∧ (∀ frame ∈ st.stack, frame.start ≠ r.element.start) ∧
      (st.pushRaw tag opening body closing rest).replace r =
        st.pushRaw tag opening r.text closing rest := by
  have hlt := htag.start_lt_stop
  have hstart : r.element.start = st.cursor.offset := by rw [helement]
  have hstop : r.body.stop = st.cursor.offset + opening.size + body.size := by rw [hbody]
  have hr : r.Proper := by
    rw [Replacement.Proper, hstart, hstop]
    omega
  obtain ⟨-, ⟨base, hframes, hsiblings⟩, -⟩ := hfaithful
  have hdone := hsiblings.replaceAll_eq_self hr hstart.ge
  rw [Node.replaceAll_reverse, List.reverse_inj] at hdone
  obtain ⟨hstack, hstarts⟩ := FramesStand.replace_eq_self hr hframes
    (hsiblings.tiles.start_le_stop.trans hstart.ge)
  have htag' := htag.replace_eq_self (r := r) (by omega)
  have hmove : r.move (st.cursor.offset + (opening ++ body ++ closing).size) =
      st.cursor.offset + (opening ++ r.text ++ closing).size := by
    have hsum : st.cursor.offset + (opening ++ body ++ closing).size =
        r.body.stop + closing.size := by
      simp only [hstop, Text.size_append]
      omega
    rw [hsum, Replacement.move_add, hbody]
    simp only [Text.size_append]
    omega
  have hstays : r.move st.cursor.offset = st.cursor.offset := Replacement.move_of_lt (by omega)
  refine ⟨hr, hstarts, ?_⟩
  simp only [pushRaw, push, replace, Node.replaceAll, Node.replace, hdone, hstack, htag', hmove,
    hstays, Replacement.moveSpan, if_pos helement.symm, hbody]

/-- **A parse that reads a raw body reads another one alike**: the steps before the element have not
looked at the body, and those after it read the same things at other places. -/
lemma Steps.replace_body {before opening body closing rest : Text} {tag : Tag} {st last : State}
    (hbefore : Steps ⟨[], [], ⟨before ++ opening ++ (body ++ (closing ++ rest)), 0⟩⟩ st)
    (hrest : st.cursor.rest = opening ++ (body ++ (closing ++ rest)))
    (hne : opening ≠ []) (hends : opening.EndsInBracket)
    (htag : tag.Stands (before ++ opening ++ (body ++ (closing ++ rest))) st.cursor.offset
      (st.cursor.offset + opening.size))
    (helement : r.element =
      ⟨st.cursor.offset, st.cursor.offset + (opening ++ body ++ closing).size⟩)
    (hbody : r.body =
      ⟨st.cursor.offset + opening.size, st.cursor.offset + opening.size + body.size⟩)
    (hread : ∀ text ∈ [body, r.text], (st.withRest (opening ++ (text ++ (closing ++ rest)))).step =
      .ok (st.pushRaw tag opening text closing rest))
    (hafter : (st.pushRaw tag opening body closing rest).Steps last) :
    Steps ⟨[], [], ⟨before ++ opening ++ (r.text ++ (closing ++ rest)), 0⟩⟩ (last.replace r) := by
  have hfaithful := Steps.faithful hbefore (faithful_start _)
  have hold : st.step = .ok (st.pushRaw tag opening body closing rest) := by
    rw [← hread body (by simp), withRest, ← hrest]
  obtain ⟨hr, hstarts, hsame⟩ := pushRaw_replace rest hfaithful htag helement hbody
  have hbehind : Behind r (st.pushRaw tag opening body closing rest) := by
    refine ⟨?_, hstarts⟩
    rw [hbody]
    simp only [pushRaw, push, Text.size_append]
    omega
  have hlast := Steps.replace hafter hr hbehind (hfaithful.step hold)
  rw [hsame] at hlast
  have hswap := Steps.swap hbefore hrest hends hne (r.text ++ (closing ++ rest))
  exact (hswap.tail ⟨by simp [withRest, hne], hread r.text (by simp)⟩).trans hlast

end State

/-- **Raw bodies do not leak.** In a source that is read without an error, the body of an element
that is read raw stands between the opening tag of the element and its first close tag, and makes
up its children. With any other text in its place that does not hold the start of the close tag,
the source is read as the tree that it was read as, with that text as the children of the element,
and with the places behind the body moved.

**Proof sketch.** One step reads the element (`State.Steps.exists_raw`), as its opening tag, its
body and its close tag (`State.ReadsRaw.exists_pieces`). With another body the steps are the same
ones, up to places (`State.Steps.replace_body`). -/
theorem parse_replace {source : Text} {document : Document} {tag : Tag} {children : List Node}
    {span : Span} (hparse : parse source = .ok document)
    (hwithin : Node.Within (.element tag children span) document.nodes)
    (hraw : isRaw tag.name = true) (hopen : tag.selfClosing = false) :
    ∃ before body after, RawBody source tag span before body after ∧
      children = rawNodes body before.size ∧
      ∀ text, ¬ ("</".toList ++ tag.name) <:+: text →
        parse (before ++ text ++ after) = .ok
          ⟨Node.replaceAll ⟨span, ⟨before.size, (before ++ body).size⟩, text⟩ document.nodes,
            ⟨0, (before ++ text ++ after).size⟩⟩ := by
  have hsteps := State.steps_of_parse hparse
  have hstart := State.faithful_start source
  obtain ⟨st, st₁, hbefore, hreads, hafter⟩ : ∃ st st₁, State.Steps ⟨[], [], ⟨source, 0⟩⟩ st ∧
      st.ReadsRaw tag children span st₁ ∧
      st₁.Steps ⟨document.nodes.reverse, [], ⟨[], source.size⟩⟩ := by
    have hholds : State.Holds ⟨document.nodes.reverse, [], ⟨[], source.size⟩⟩
        (.element tag children span) := .inl (Node.within_reverse.2 hwithin)
    rcases hsteps.exists_raw (by simp [State.NoneRaw]) hraw hopen hholds with h | h
    · simp [State.Holds, Node.not_within_nil] at h
    · exact h
  have hfaithful := State.Steps.faithful hbefore hstart
  obtain ⟨opening, body, gap, rest, hrest, hne, hends, hgap, hfree, htag, rfl, rfl, rfl, hread⟩ :=
    hreads.exists_pieces hraw hopen
  replace htag := htag source hfaithful.cursor_in
  obtain ⟨before, hsource, hsize⟩ := hfaithful.cursor_in
  rw [hrest, ← List.append_assoc] at hsource
  have hopened : (before ++ opening).size = st.cursor.offset + opening.size := by
    rw [Text.size_append, hsize]
  refine ⟨before ++ opening, body, closeTag tag.name gap ++ rest,
    ⟨by simp [hsource], by rwa [hopened], ⟨gap, rest, hgap, rfl, ?_⟩, hfree⟩, by rw [hopened],
    fun text htext => ?_⟩
  · simp only [Text.size_append, hsize]
    omega
  · rw [hsource] at hbefore htag
    have hbody : (⟨(before ++ opening).size, (before ++ opening ++ body).size⟩ : Span) =
        ⟨st.cursor.offset + opening.size, st.cursor.offset + opening.size + body.size⟩ := by
      rw [Text.size_append (before ++ opening), hopened]
    have hnew := State.Steps.replace_body (r := ⟨_, _, text⟩) hbefore hrest hne hends htag rfl hbody
      (by simp [hread body hfree, hread text htext]) hafter
    rw [List.append_assoc _ text]
    unfold parse
    rw [State.Steps.run_eq hnew]
    simp [State.replace, State.run_end]

end OneFile.Markup
