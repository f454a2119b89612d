import OneFile.Proofs.Markup.Composition

/-!
# What one step of a parse can do

A step of a parse that succeeds has read one of a few things. This module lists them, and follows
from there which nodes a parse can have gathered.

## Main definitions

* `OneFile.Markup.rawNodes` — the children of an element with a raw body.
* `OneFile.Markup.State.ReadsTag` — an opening tag is read at the cursor.
* `OneFile.Markup.State.Turn` — what one step can do.
* `OneFile.Markup.State.Holds` — a node is among those that a parse has read, at any depth.

## Main results

* `OneFile.Markup.Attribute.read_eq_ok_iff` — what there can be to read for an attribute.
* `OneFile.Markup.State.turn_of_step` — a step that succeeds does one of these things.
* `OneFile.Markup.State.Steps.exists_raw` — every element with a raw body was read by one step.
-/

namespace OneFile.Markup

/-! ### Nodes at any depth -/

/-- Nothing is within no nodes. -/
lemma Node.not_within_nil {node : Node} : ¬ node.Within [] := by
  intro h
  cases h with
  | among h => simp at h
  | inside hparent => simp at hparent

/-- A node within nodes is within more nodes. -/
lemma Node.Within.mono {node : Node} {nodes nodes' : List Node} (h : node.Within nodes)
    (hsub : nodes ⊆ nodes') : node.Within nodes' := by
  cases h with
  | among h => exact .among (hsub h)
  | inside hparent h => exact .inside (hsub hparent) h

/-- A node within nodes is within the first one or within the others. -/
lemma Node.within_cons {node first : Node} {nodes : List Node} :
    node.Within (first :: nodes) ↔ node.Within [first] ∨ node.Within nodes := by
  constructor
  · intro h
    cases h with
    | among h =>
      rcases List.mem_cons.1 h with rfl | h
      · exact .inl (.among (List.mem_singleton.2 rfl))
      · exact .inr (.among h)
    | inside hparent h =>
      rcases List.mem_cons.1 hparent with rfl | hparent
      · exact .inl (.inside (List.mem_singleton.2 rfl) h)
      · exact .inr (.inside hparent h)
  · rintro (h | h)
    · exact h.mono (by simp)
    · exact h.mono (List.subset_cons_self _ _)

/-- Whether a node is within nodes does not depend on their order. -/
lemma Node.within_reverse {node : Node} {nodes : List Node} :
    node.Within nodes.reverse ↔ node.Within nodes :=
  ⟨fun h => h.mono fun _ hn => List.mem_reverse.1 hn,
    fun h => h.mono fun _ hn => List.mem_reverse.2 hn⟩

/-- A node within a single element is that element or is within its children. -/
lemma Node.within_element {node : Node} {tag : Tag} {children : List Node} {span : Span} :
    node.Within [.element tag children span] ↔
      node = .element tag children span ∨ node.Within children := by
  constructor
  · intro h
    cases h with
    | among h => exact .inl (List.mem_singleton.1 h)
    | inside hparent h =>
      obtain ⟨rfl, rfl, rfl⟩ := Node.element.inj (List.mem_singleton.1 hparent)
      exact .inr h
  · rintro (rfl | h)
    · exact .among (by simp)
    · exact .inside (List.mem_singleton.2 rfl) h

/-- Nothing is below a node that is no element. -/
lemma Node.eq_of_within {node leaf : Node} (hleaf : leaf.isElement = false)
    (h : node.Within [leaf]) : node = leaf := by
  cases h with
  | among h => exact List.mem_singleton.1 h
  | inside hparent h =>
    rw [← List.mem_singleton.1 hparent] at hleaf
    simp [Node.isElement] at hleaf

/-! ### How an attribute is read -/

/-- **The name of an attribute is read** between two places. -/
structure ReadsName (c : Cursor) (name : Text) (c₁ : Cursor) : Prop where
  ne_nil : name ≠ []
  name_eq : attributeName c.rest = (name, c₁.rest)
  offset_eq : c₁.offset = c.offset + name.size

/-- **An attribute is read** as a name and nothing else, if no equals sign follows it after some
blanks, or else as a name and a value. -/
lemma Attribute.read_eq_ok_iff {tag : Text} {c c' : Cursor} {a : Attribute} :
    Attribute.read tag c = .ok (a, c') ↔ ∃ name c₁, ReadsName c name c₁ ∧
      ((∀ s, c₁.skipSpaces.rest ≠ '=' :: s) ∧ c' = c₁ ∧
          a = ⟨name, .empty, ⟨c.offset, c'.offset⟩⟩ ∨
        ∃ s v, c₁.skipSpaces.rest = '=' :: s ∧
          AttributeValue.read name c.offset (Cursor.skipSpaces ⟨s, c₁.skipSpaces.offset + 1⟩) =
            .ok (v, c') ∧
          a = ⟨name, v, ⟨c.offset, c'.offset⟩⟩) := by
  constructor
  · intro h
    simp only [Attribute.read] at h
    split_ifs at h with hempty
    refine ⟨_, c.advance (attributeName c.rest).1 (attributeName c.rest).2,
      ⟨by simpa using hempty, rfl, rfl⟩, ?_⟩
    split at h
    · rename_i s hs
      split at h
      · simp at h
      · rename_i v c₂ hv
        simp only [Except.ok.injEq, Prod.mk.injEq] at h
        obtain ⟨rfl, rfl⟩ := h
        exact .inr ⟨s, v, hs, hv, rfl⟩
    · rename_i hother
      simp only [Except.ok.injEq, Prod.mk.injEq] at h
      obtain ⟨rfl, rfl⟩ := h
      exact .inl ⟨hother, rfl, rfl⟩
  · rintro ⟨name, c₁, ⟨hne, hname, hoffset⟩, h⟩
    have hadvance : c.advance name c₁.rest = c₁ := by
      rw [Cursor.advance, ← hoffset]
    simp only [Attribute.read, hname, hadvance, List.isEmpty_iff, if_neg hne]
    rcases h with ⟨hother, rfl, rfl⟩ | ⟨s, v, hs, hv, rfl⟩
    · split
      · rename_i s hs
        exact absurd hs (hother s)
      · rfl
    · simp only [hs, hv]

/-! ### What one step can do -/

/-- The children of an element with a raw body that starts at byte `start`: none, or one text. -/
def rawNodes (body : Text) (start : Nat) : List Node :=
  if body.isEmpty then [] else [.text body ⟨start, start + body.size⟩]

namespace State

variable {st st' : State}

/-- **An opening tag is read at the cursor**, from its bracket on, which `s` follows: its name, its
attributes, whether it closes itself, and the place after it. -/
structure ReadsTag (st : State) (s : Text) (attributes : List Attribute) (closed : Bool)
    (c : Cursor) : Prop where
  rest_eq : st.cursor.rest = '<' :: s
  letter : ∃ d ∈ s.head?, d.isAlpha = true
  read : Tag.readAttributes (s.takeWhile isNameChar) st.cursor.offset []
    ⟨s.dropWhile isNameChar, st.cursor.offset + 1 + Text.size (s.takeWhile isNameChar)⟩ =
      .ok (attributes, closed, c)

/-- The name of an opening tag is read first, after its bracket. -/
lemma ReadsTag.reads_name {s : Text} {attributes : List Attribute} {closed : Bool} {c : Cursor}
    (h : st.ReadsTag s attributes closed c) :
    st.cursor.Reads ('<' :: s.takeWhile isNameChar) ⟨s.dropWhile isNameChar,
      st.cursor.offset + 1 + Text.size (s.takeWhile isNameChar)⟩ := by
  refine ⟨?_, ?_⟩
  · rw [h.rest_eq, List.cons_append, List.takeWhile_append_dropWhile]
  · rw [Text.size_cons, Nat.add_assoc]
    rfl

/-- An opening tag that is read stands in the source. -/
lemma ReadsTag.stands {source s : Text} {attributes : List Attribute} {closed : Bool} {c : Cursor}
    (h : st.ReadsTag s attributes closed c) (hin : st.cursor.In source) :
    Tag.Stands source ⟨s.takeWhile isNameChar, attributes,
      closed || isVoid (s.takeWhile isNameChar)⟩ st.cursor.offset c.offset := by
  obtain ⟨new, piece, hnew, -, hstand⟩ :=
    Tag.readAttributes_stand (hin.of_reads h.reads_name) h.read
  obtain rfl : attributes = new := by simpa using hnew
  exact ⟨_, closed, h.reads_name.names hin, hstand, rfl⟩

/-- **What one step can do**: add a node without nodes below it, add an element with a raw body,
open an element, or close the element that was opened last. -/
inductive Turn (st : State) : State → Prop
  | text {c : Char} {s : Text} (hrest : st.cursor.rest = c :: s) (hbrace : c ≠ '{')
      (hmarkup : startsMarkup (c :: s) = false) : Turn st (st.readText c s)
  | expression {source after : Text} {stop : Nat} {s : Text} (hrest : st.cursor.rest = '{' :: s)
      (hinside : Brace.inside? st.cursor.rest = some (source, after)) :
      Turn st (st.push (.expression source ⟨st.cursor.offset, stop⟩) ⟨after, stop⟩)
  | comment {value after : Text} {stop : Nat} :
      Turn st (st.push (.comment value ⟨st.cursor.offset, stop⟩) ⟨after, stop⟩)
  | closed {s : Text} {attributes : List Attribute} {closed : Bool} {c : Cursor}
      (htag : st.ReadsTag s attributes closed c)
      (hclosed : (closed || isVoid (s.takeWhile isNameChar)) = true) :
      Turn st (st.push (.element ⟨s.takeWhile isNameChar, attributes, true⟩ []
        ⟨st.cursor.offset, c.offset⟩) c)
  | raw {s : Text} {attributes : List Attribute} {c c' : Cursor} {children : List Node}
      (htag : st.ReadsTag s attributes false c) (hvoid : isVoid (s.takeWhile isNameChar) = false)
      (hraw : isRaw (s.takeWhile isNameChar) = true)
      (hbody : readRaw (s.takeWhile isNameChar) st.cursor.offset c = .ok (children, c')) :
      Turn st (st.push (.element ⟨s.takeWhile isNameChar, attributes, false⟩ children
        ⟨st.cursor.offset, c'.offset⟩) c')
  | opened {s : Text} {attributes : List Attribute} {c : Cursor}
      (htag : st.ReadsTag s attributes false c) (hvoid : isVoid (s.takeWhile isNameChar) = false)
      (hraw : isRaw (s.takeWhile isNameChar) = false) :
      Turn st ⟨[], ⟨⟨s.takeWhile isNameChar, attributes, false⟩, st.cursor.offset, st.done⟩ ::
        st.stack, c⟩
  | close {frame : Frame} {stack : List Frame} {after : Text} {stop : Nat}
      (hstack : st.stack = frame :: stack) :
      Turn st ⟨.element frame.tag st.done.reverse ⟨frame.start, stop⟩ :: frame.before, stack,
        ⟨after, stop⟩⟩

/-- A comment is read. -/
lemma turn_of_readComment {opening closing body : Text}
    (h : st.readComment opening closing body = .ok st') : st.Turn st' := by
  simp only [readComment] at h
  split at h
  · simp at h
  · simp only [Except.ok.injEq] at h
    subst h
    exact .comment

/-- An opening tag is read, and the raw body after it if there is one. -/
lemma turn_of_openElement {s : Text} (hrest : st.cursor.rest = '<' :: s)
    (hletter : ∃ d ∈ s.head?, d.isAlpha = true) (h : st.openElement s = .ok st') :
    st.Turn st' := by
  simp only [openElement] at h
  split at h
  · simp at h
  · rename_i attributes closed c hread
    have htag : st.ReadsTag s attributes closed c := ⟨hrest, hletter, hread⟩
    split_ifs at h with hclosed hraw
    · simp only [Except.ok.injEq] at h
      subst h
      exact .closed htag hclosed
    · simp only [Bool.or_eq_true, not_or, Bool.not_eq_true] at hclosed
      obtain ⟨rfl, hvoid⟩ := hclosed
      split at h
      · simp at h
      · rename_i children c' hbody
        simp only [Except.ok.injEq] at h
        subst h
        exact .raw htag hvoid hraw hbody
    · simp only [Bool.or_eq_true, not_or, Bool.not_eq_true] at hclosed
      obtain ⟨rfl, hvoid⟩ := hclosed
      simp only [Except.ok.injEq] at h
      subst h
      exact .opened htag hvoid (Bool.eq_false_iff.2 hraw)

/-- A close tag is read. -/
lemma turn_of_closeElement {s : Text} (h : st.closeElement s = .ok st') : st.Turn st' := by
  simp only [closeElement] at h
  split at h
  · split at h
    · simp at h
    · rename_i frame stack hstack
      split_ifs at h
      simp only [Except.ok.injEq] at h
      subst h
      exact .close hstack
  · simp at h

/-- **A step that succeeds does one of these things**, if there is something to read. -/
theorem turn_of_step (hne : st.cursor.rest ≠ []) (h : st.step = .ok st') : st.Turn st' := by
  unfold step at h
  split at h
  · contradiction
  · exact turn_of_closeElement h
  · exact turn_of_readComment h
  · exact turn_of_readComment h
  · rename_i s hrest
    simp only [readExpression] at h
    split at h
    · simp at h
    · rename_i hinside
      simp only [Except.ok.injEq] at h
      subst h
      exact .expression hrest hinside
  · rename_i d s hclose _ hdeclaration hbrace hrest
    split_ifs at h with hmarkup
    · obtain rfl := eq_lt_of_startsMarkup hmarkup
      refine turn_of_openElement hrest ?_ h
      cases s with
      | nil => simp [startsMarkup_singleton] at hmarkup
      | cons e s =>
        have hslash : e ≠ '/' := fun he => hclose s rfl (by rw [he])
        have hmark : e ≠ '!' := fun he => hdeclaration s rfl (by rw [he])
        exact ⟨e, rfl, by simpa [startsMarkup, hslash, hmark] using hmarkup⟩
    · simp only [Except.ok.injEq] at h
      subst h
      exact .text hrest hbrace (Bool.eq_false_iff.2 hmarkup)

/-! ### Elements with a raw body -/

/-- Where the opening tag of an element with a raw body is read, so is that body. -/
lemma ReadsTag.step_raw {s : Text} {attributes : List Attribute} {c c' : Cursor}
    {children : List Node} (h : st.ReadsTag s attributes false c)
    (hvoid : isVoid (s.takeWhile isNameChar) = false) (hraw : isRaw (s.takeWhile isNameChar) = true)
    (hbody : readRaw (s.takeWhile isNameChar) st.cursor.offset c = .ok (children, c')) :
    st.step = .ok (st.push (.element ⟨s.takeWhile isNameChar, attributes, false⟩ children
      ⟨st.cursor.offset, c'.offset⟩) c') := by
  rw [step_open h.rest_eq h.letter]
  simp only [openElement, h.read, hvoid, hraw, hbody, Bool.or_self, Bool.false_eq_true, if_false,
    if_true]

/-- **A raw body is read** up to the first start of the close tag, after whose blanks the closing
bracket stands. -/
lemma readRaw_eq_ok_iff {name : Text} {start : Nat} {c c' : Cursor} {children : List Node} :
    readRaw name start c = .ok (children, c') ↔ ∃ body after rest,
      Text.breakOn ("</".toList ++ name) c.rest = some (body, after) ∧
      (Cursor.skipSpaces ⟨after, c.offset + body.size + 2 + name.size⟩).rest = '>' :: rest ∧
      children = rawNodes body c.offset ∧
      c' = ⟨rest,
        (Cursor.skipSpaces ⟨after, c.offset + body.size + 2 + name.size⟩).offset + 1⟩ := by
  constructor
  · intro h
    simp only [readRaw] at h
    split at h
    · simp at h
    · rename_i body after hfound
      split at h
      · rename_i rest hrest
        simp only [Except.ok.injEq, Prod.mk.injEq] at h
        exact ⟨body, after, rest, hfound, hrest, h.1.symm, h.2.symm⟩
      · simp at h
  · rintro ⟨body, after, rest, hfound, hrest, rfl, rfl⟩
    simp only [readRaw, hfound, hrest]
    rfl

/-- There is no element below an element with a raw body. -/
lemma not_within_rawNodes {body : Text} {start : Nat} {tag : Tag} {children : List Node}
    {span : Span} : ¬ Node.Within (.element tag children span) (rawNodes body start) := by
  intro h
  unfold rawNodes at h
  split_ifs at h
  · exact Node.not_within_nil h
  · exact Node.noConfusion (Node.eq_of_within rfl h)

/-- **A parse holds a node** if it has read it, at any depth. -/
def Holds (st : State) (node : Node) : Prop :=
  node.Within st.done ∨ ∃ frame ∈ st.stack, node.Within frame.before

/-- A node is held after another one was added just if it was held before or is within that one. -/
lemma holds_push {node new : Node} {c : Cursor} :
    (st.push new c).Holds node ↔ node.Within [new] ∨ st.Holds node := by
  show node.Within (new :: st.done) ∨ _ ↔ _
  rw [Node.within_cons, or_assoc]
  rfl

/-- No open element of a parse has a raw body: such elements are read whole. -/
def NoneRaw (st : State) : Prop := ∀ frame ∈ st.stack, isRaw frame.tag.name = false

/-- An element that is open after a step was open before it, or it was opened by that step. -/
lemma Turn.mem_stack {frame : Frame} (h : st.Turn st') (hframe : frame ∈ st'.stack) :
    frame ∈ st.stack ∨ frame.start = st.cursor.offset := by
  cases h with
  | opened =>
    rcases List.mem_cons.1 hframe with rfl | hframe
    · exact .inr rfl
    · exact .inl hframe
  | close hstack =>
    rw [hstack]
    exact .inl (List.mem_cons_of_mem _ hframe)
  | text => exact .inl hframe
  | expression => exact .inl hframe
  | comment => exact .inl hframe
  | closed => exact .inl hframe
  | raw => exact .inl hframe

/-- A step leaves no element with a raw body open. -/
lemma NoneRaw.turn (h : st.NoneRaw) (hturn : st.Turn st') : st'.NoneRaw := by
  cases hturn with
  | opened _ _ hraw =>
    intro frame hframe
    rcases List.mem_cons.1 hframe with rfl | hframe
    · exact hraw
    · exact h frame hframe
  | close hstack =>
    intro frame hframe
    exact h frame (by rw [hstack]; exact List.mem_cons_of_mem _ hframe)
  | text => exact h
  | expression => exact h
  | comment => exact h
  | closed => exact h
  | raw => exact h

/-- Steps leave no element with a raw body open. -/
lemma NoneRaw.steps (h : st.NoneRaw) (hsteps : st.Steps st') : st'.NoneRaw := by
  induction hsteps with
  | refl => exact h
  | tail _ hstep ih => exact ih.turn (turn_of_step hstep.1 hstep.2)

/-- **An element with a raw body is read whole**: its opening tag, its body and its close tag, and
then it is the node that was read last. -/
def ReadsRaw (st : State) (tag : Tag) (children : List Node) (span : Span) (st' : State) : Prop :=
  ∃ s c c', st.ReadsTag s tag.attributes false c ∧ tag.name = s.takeWhile isNameChar ∧
    isVoid tag.name = false ∧ readRaw tag.name st.cursor.offset c = .ok (children, c') ∧
    span = ⟨st.cursor.offset, c'.offset⟩ ∧ st' = st.push (.element tag children span) c'

/-- Of the elements with a raw body, a step adds at most the one that it reads. -/
lemma Turn.holds_raw {tag : Tag} {children : List Node} {span : Span} (hturn : st.Turn st')
    (hframes : st.NoneRaw) (hraw : isRaw tag.name = true) (hopen : tag.selfClosing = false)
    (h : st'.Holds (.element tag children span)) :
    st.Holds (.element tag children span) ∨ st.ReadsRaw tag children span st' := by
  cases hturn with
  | text =>
    rcases holds_push.1 h with h | h
    · simpa using Node.eq_of_within rfl h
    · exact .inl h
  | expression =>
    rcases holds_push.1 h with h | h
    · simpa using Node.eq_of_within rfl h
    · exact .inl h
  | comment =>
    rcases holds_push.1 h with h | h
    · simpa using Node.eq_of_within rfl h
    · exact .inl h
  | closed =>
    rcases holds_push.1 h with h | h
    · rcases Node.within_element.1 h with heq | h
      · obtain ⟨rfl, -, -⟩ := Node.element.inj heq
        simp at hopen
      · exact absurd h Node.not_within_nil
    · exact .inl h
  | @raw s attributes c c' children' htag hvoid hrawName hbody =>
    rcases holds_push.1 h with h | h
    · rcases Node.within_element.1 h with heq | h
      · obtain ⟨rfl, rfl, rfl⟩ := Node.element.inj heq
        exact .inr ⟨_, _, _, htag, rfl, hvoid, hbody, rfl, rfl⟩
      · obtain ⟨body, -, -, -, -, rfl, -⟩ := readRaw_eq_ok_iff.1 hbody
        exact absurd h not_within_rawNodes
    · exact .inl h
  | opened =>
    refine .inl ?_
    rcases h with h | ⟨frame, hframe, h⟩
    · exact absurd h Node.not_within_nil
    · rcases List.mem_cons.1 hframe with rfl | hframe
      · exact .inl h
      · exact .inr ⟨frame, hframe, h⟩
  | @close frame stack _ _ hstack =>
    have hframe : frame ∈ st.stack := by simp [hstack]
    rcases h with h | ⟨outer, houter, h⟩
    · rcases Node.within_cons.1 h with h | h
      · rcases Node.within_element.1 h with heq | h
        · obtain ⟨rfl, -, -⟩ := Node.element.inj heq
          rw [hframes frame hframe] at hraw
          cases hraw
        · exact .inl (.inl (Node.within_reverse.1 h))
      · exact .inl (.inr ⟨frame, hframe, h⟩)
    · exact .inl (.inr ⟨outer, by rw [hstack]; exact List.mem_cons_of_mem _ houter, h⟩)

/-- **Every element with a raw body was read by one step**, unless it was held from the start. -/
theorem Steps.exists_raw {tag : Tag} {children : List Node} {span : Span} (hsteps : st.Steps st')
    (hframes : st.NoneRaw) (hraw : isRaw tag.name = true) (hopen : tag.selfClosing = false)
    (h : st'.Holds (.element tag children span)) :
    st.Holds (.element tag children span) ∨
      ∃ st₀ st₁, st.Steps st₀ ∧ st₀.ReadsRaw tag children span st₁ ∧ st₁.Steps st' := by
  induction hsteps with
  | refl => exact .inl h
  | @tail st₂ st₃ hbefore hstep ih =>
    have hturn := turn_of_step hstep.1 hstep.2
    rcases hturn.holds_raw (hframes.steps hbefore) hraw hopen h with h | h
    · rcases ih h with h | ⟨st₀, st₁, h₀, h₁, h₂⟩
      · exact .inl h
      · exact .inr ⟨st₀, st₁, h₀, h₁, h₂.tail hstep⟩
    · exact .inr ⟨st₂, st₃, hbefore, h, .refl⟩

end State

end OneFile.Markup
