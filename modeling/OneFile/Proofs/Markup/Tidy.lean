import OneFile.Proofs.Markup.Legibility

/-!
# Trees as their text shows them

Nothing is written for comments, and the text of two neighbours runs together if both are text. So
what a text can be read as is a tidy tree: without comments, and with neighbouring texts joined.
Two texts that are joined can make markup where they meet, which neither of them holds.

## Main definitions

* `OneFile.Markup.Node.tidyAll` — nodes without comments, with neighbouring texts joined.
* `OneFile.Markup.JoinsSafely` — nodes among which no two texts make markup where they meet.

## Main results

* `OneFile.Markup.renderAll_tidyAll` — tidying does not show in the text.
* `OneFile.Markup.textsApart_tidyAll` — no two texts are neighbours in a tidy list.
* `OneFile.Markup.isPlainText_of_mem_tidyAll` — texts that join safely make plain text.
-/

namespace OneFile.Markup

namespace Node

/-- Whether the node is a comment. -/
def isComment : Node → Bool
  | .comment .. => true
  | _ => false

/-- The nodes that something is written for: all but the comments. -/
def written (nodes : List Node) : List Node := nodes.filter fun node => !node.isComment

/-- A text before other nodes, joined with the text that they start with if they do. -/
def consText (value : Text) (span : Span) : List Node → List Node
  | .text value' span' :: nodes => .text (value ++ value') ⟨span.start, span'.stop⟩ :: nodes
  | nodes => .text value span :: nodes

mutual

/-- The node, with everything below it tidied, before nodes that are tidy already. -/
def tidyOnto : Node → List Node → List Node
  | .element tag children span, nodes => .element tag (tidyAll children) span :: nodes
  | .text value span, nodes => consText value span nodes
  | .expression source span, nodes => .expression source span :: nodes
  | .comment _ _, nodes => nodes

/-- The nodes without comments and with neighbouring texts joined, at every depth. -/
def tidyAll : List Node → List Node
  | [] => []
  | node :: nodes => tidyOnto node (tidyAll nodes)

end

end Node

open Node

/-! ### Tidying does not show -/

/-- A joined text is written like the two texts. -/
lemma renderAll_consText (value : Text) (span : Span) (nodes : List Node) :
    renderAll (consText value span nodes) = value ++ renderAll nodes := by
  unfold consText
  split
  · simp [renderAll, Node.render]
  · rfl

mutual

/-- A node is written like the tidy one. -/
lemma renderAll_tidyOnto (node : Node) (nodes : List Node) :
    renderAll (node.tidyOnto nodes) = node.render ++ renderAll nodes := by
  cases node with
  | element tag children span =>
    simp only [tidyOnto, renderAll, Node.render, renderAll_tidyAll children]
  | text value span => exact renderAll_consText value span nodes
  | expression source span => rfl
  | comment value span => rfl

/-- **Tidying does not show in the text.** -/
lemma renderAll_tidyAll (nodes : List Node) : renderAll (tidyAll nodes) = renderAll nodes := by
  cases nodes with
  | nil => rfl
  | cons node nodes =>
    rw [tidyAll, renderAll_tidyOnto node, renderAll_tidyAll nodes, renderAll]

end

/-! ### What is in a tidy list -/

/-- A node among others after a text is one of them, or it is text. -/
lemma mem_of_mem_consText {node : Node} {value : Text} {span : Span} {nodes : List Node}
    (h : node ∈ consText value span nodes) : node.isText = true ∨ node ∈ nodes := by
  unfold consText at h
  split at h
  · rcases List.mem_cons.1 h with rfl | h
    · exact .inl rfl
    · exact .inr (List.mem_cons_of_mem _ h)
  · rcases List.mem_cons.1 h with rfl | h
    · exact .inl rfl
    · exact .inr h

/-- **What is in a tidy list and is no text** is what one node of the untidy list becomes on its
own. -/
lemma exists_mem_of_mem_tidyAll {node : Node} {nodes : List Node} (h : node ∈ tidyAll nodes)
    (hother : node.isText = false) : ∃ original ∈ nodes, node ∈ original.tidyOnto [] := by
  induction nodes with
  | nil => simp [tidyAll] at h
  | cons first nodes ih =>
    suffices h : node ∈ first.tidyOnto [] ∨ node ∈ tidyAll nodes by
      rcases h with h | h
      · exact ⟨first, List.mem_cons_self, h⟩
      · obtain ⟨original, hmem, hnode⟩ := ih h
        exact ⟨original, List.mem_cons_of_mem _ hmem, hnode⟩
    rw [tidyAll] at h
    cases first with
    | element => simpa [tidyOnto] using h
    | text value span =>
      rcases mem_of_mem_consText h with htext | h
      · simp [htext] at hother
      · exact .inr h
    | expression => simpa [tidyOnto] using h
    | comment => exact .inr h

/-- A text before a tidy list does not become the neighbour of another one. -/
lemma textsApart_consText {nodes : List Node} (h : TextsApart nodes) (value : Text) (span : Span) :
    TextsApart (consText value span nodes) := by
  unfold consText
  split
  · rename_i value' span' nodes
    cases nodes with
    | nil => exact .singleton _
    | cons next nodes => exact List.isChain_cons_cons.2 (List.isChain_cons_cons.1 h)
  · rename_i hother
    cases nodes with
    | nil => exact .singleton _
    | cons next nodes =>
      refine List.isChain_cons_cons.2 ⟨?_, h⟩
      cases next with
      | text value' span' => exact absurd rfl (hother value' span' nodes)
      | element => simp [Node.isText]
      | expression => simp [Node.isText]
      | comment => simp [Node.isText]

/-- No text is the neighbour of another node that is no text. -/
lemma textsApart_cons {node : Node} {nodes : List Node} (h : TextsApart nodes)
    (hother : node.isText = false) : TextsApart (node :: nodes) := by
  cases nodes with
  | nil => exact .singleton _
  | cons next nodes => exact List.isChain_cons_cons.2 ⟨by simp [hother], h⟩

/-- **No two texts are neighbours in a tidy list.** -/
lemma textsApart_tidyAll (nodes : List Node) : TextsApart (tidyAll nodes) := by
  induction nodes with
  | nil => exact .nil
  | cons node nodes ih =>
    rw [tidyAll]
    cases node with
    | element => exact textsApart_cons ih rfl
    | text value span => exact textsApart_consText ih value span
    | expression => exact textsApart_cons ih rfl
    | comment => exact ih

/-! ### Where texts meet -/

/-- **Two neighbours make markup**: both are text, and markup starts at the last character of the
first one. -/
def MakesMarkup : Node → Node → Prop
  | .text value _, .text value' _ =>
    value.getLast? = some '<' ∧ startsMarkup ('<' :: value') = true
  | _, _ => False

/-- Whether two nodes would be read as markup together. -/
instance (a b : Node) : Decidable (MakesMarkup a b) :=
  match a, b with
  | .text value _, .text value' _ =>
    inferInstanceAs (Decidable (value.getLast? = some '<' ∧ startsMarkup ('<' :: value') = true))
  | .element .., _ | .expression .., _ | .comment .., _ => .isFalse id
  | .text .., .element .. | .text .., .expression .. | .text .., .comment .. => .isFalse id

/-- **The nodes join safely**: no two of them make markup when the comments between them are left
out. -/
def JoinsSafely (nodes : List Node) : Prop :=
  (written nodes).IsChain fun a b => ¬ MakesMarkup a b

/-- Whether nodes can be written next to each other. -/
instance (nodes : List Node) : Decidable (JoinsSafely nodes) :=
  inferInstanceAs (Decidable (List.IsChain _ _))

/-- Nodes after another one join safely if they do together with it. -/
lemma JoinsSafely.of_cons {node : Node} {nodes : List Node} (h : JoinsSafely (node :: nodes)) :
    JoinsSafely nodes := by
  unfold JoinsSafely written at h ⊢
  rw [List.filter_cons] at h
  split_ifs at h
  · exact h.tail
  · exact h

/-- A pair of characters that neither of two texts holds is not where they meet, if it is not split
between them. -/
lemma not_infix_append {c d : Char} {s t : Text} (hs : ¬ [c, d] <:+: s) (ht : ¬ [c, d] <:+: t)
    (hmeet : s.getLast? = some c → t.head? ≠ some d) : ¬ [c, d] <:+: s ++ t := by
  induction s with
  | nil => exact ht
  | cons e s ih =>
    rw [List.infix_cons_iff, not_or] at hs
    rw [List.cons_append, List.infix_cons_iff]
    rintro (⟨u, hu⟩ | hinfix)
    · simp only [List.cons_append, List.nil_append, List.cons.injEq] at hu
      obtain ⟨rfl, hu⟩ := hu
      cases s with
      | nil =>
        rw [List.nil_append] at hu
        exact hmeet rfl (by rw [← hu]; rfl)
      | cons f s =>
        obtain rfl : d = f := by simpa using congrArg List.head? hu
        exact hs.1 ⟨s, rfl⟩
    · refine ih hs.2 (fun hlast => hmeet ?_) hinfix
      rw [List.getLast?_cons, hlast]
      rfl

/-- **Plain texts that do not make markup are plain text together.** -/
lemma IsPlainText.append {s t : Text} (hs : IsPlainText s) (ht : IsPlainText t)
    (hmeet : ¬ (s.getLast? = some '<' ∧ startsMarkup ('<' :: t) = true)) :
    IsPlainText (s ++ t) where
  ne_nil := by simp [hs.ne_nil]
  no_brace := by simp [hs.no_brace, ht.no_brace]
  no_markup := by
    intro d hd
    refine not_infix_append (hs.no_markup d hd) (ht.no_markup d hd) fun hlast hhead => ?_
    obtain ⟨u, rfl⟩ := List.head?_eq_some_iff.1 hhead
    refine hmeet ⟨hlast, ?_⟩
    rcases hd with hd | rfl | rfl
    · simp [startsMarkup, hd]
    · rfl
    · rfl

/-- **The first text of a tidy list** starts with the first node of the untidy list that is no
comment, which is text as well. -/
lemma exists_of_tidyAll_eq_text {nodes rest : List Node} {value : Text} {span : Span}
    (h : tidyAll nodes = .text value span :: rest) : ∃ start span' others,
      written nodes = .text start span' :: others ∧ start <+: value := by
  induction nodes with
  | nil => simp [tidyAll] at h
  | cons node nodes ih =>
    rw [tidyAll] at h
    cases node with
    | element => simp [tidyOnto] at h
    | expression => simp [tidyOnto] at h
    | comment => exact ih h
    | text start span' =>
      refine ⟨start, span', _, rfl, ?_⟩
      simp only [tidyOnto, consText] at h
      split at h
      · simp only [List.cons.injEq, Node.text.injEq] at h
        exact ⟨_, h.1.1⟩
      · simp only [List.cons.injEq, Node.text.injEq] at h
        rw [h.1.1]

/-- Whether markup starts at a bracket is decided by the first character of the text after it. -/
lemma startsMarkup_eq_of_start {s t : Text} (hne : s ≠ []) (h : s <+: t) :
    startsMarkup ('<' :: t) = startsMarkup ('<' :: s) := by
  obtain ⟨u, rfl⟩ := h
  obtain ⟨c, s, rfl⟩ := List.exists_cons_of_ne_nil hne
  rfl

/-- A text makes no markup with the first text of a tidy list, if it joins safely with the untidy
list. -/
lemma JoinsSafely.not_makesMarkup {nodes rest : List Node} {first value : Text} {span span' : Span}
    (h : JoinsSafely (.text first span :: nodes))
    (hne : ∀ value span, .text value span ∈ nodes → value ≠ [])
    (htidy : tidyAll nodes = .text value span' :: rest) :
    ¬ MakesMarkup (.text first span) (.text value span') := by
  obtain ⟨start, span₁, others, hwritten, hprefix⟩ := exists_of_tidyAll_eq_text htidy
  have hstart : start ≠ [] := by
    have hmem : .text start span₁ ∈ written nodes := by simp [hwritten]
    exact hne start span₁ (List.mem_of_mem_filter hmem)
  have hcons : written (.text first span :: nodes) = .text first span :: written nodes := rfl
  rw [JoinsSafely, hcons, hwritten] at h
  rintro ⟨hlast, hstarts⟩
  rw [startsMarkup_eq_of_start hstart hprefix] at hstarts
  exact (List.isChain_cons_cons.1 h).1 ⟨hlast, hstarts⟩

/-- **The texts of a tidy list are plain**, if those of the untidy list are and join safely.

**Proof sketch.** Induction on the nodes. A text that is put before a tidy list meets at most the
first text of that list, which starts with the next text of the untidy list. -/
lemma isPlainText_of_mem_tidyAll {nodes : List Node}
    (hplain : ∀ value span, .text value span ∈ nodes → IsPlainText value)
    (hjoins : JoinsSafely nodes) {value : Text} {span : Span}
    (h : .text value span ∈ tidyAll nodes) : IsPlainText value := by
  induction nodes generalizing value span with
  | nil => simp [tidyAll] at h
  | cons node nodes ih =>
    have hbelow : ∀ value span, .text value span ∈ nodes → IsPlainText value :=
      fun value span hmem => hplain value span (List.mem_cons_of_mem _ hmem)
    have hlater : ∀ {value span}, .text value span ∈ tidyAll nodes → IsPlainText value :=
      ih hbelow hjoins.of_cons
    rw [tidyAll] at h
    cases node with
    | element => exact hlater (by simpa [tidyOnto] using h)
    | expression => exact hlater (by simpa [tidyOnto] using h)
    | comment => exact hlater h
    | text first span' =>
      have hfirst : IsPlainText first := hplain first span' List.mem_cons_self
      simp only [tidyOnto, consText] at h
      split at h
      · rename_i value' span'' rest htidy
        rcases List.mem_cons.1 h with heq | h
        · obtain ⟨rfl, -⟩ := Node.text.inj heq
          have hvalue' : IsPlainText value' := hlater (by rw [htidy]; exact List.mem_cons_self)
          exact hfirst.append hvalue' (hjoins.not_makesMarkup
            (fun value span hmem => (hbelow value span hmem).ne_nil) htidy)
        · exact hlater (by rw [htidy]; exact List.mem_cons_of_mem _ h)
      · rcases List.mem_cons.1 h with heq | h
        · obtain ⟨rfl, -⟩ := Node.text.inj heq
          exact hfirst
        · exact hlater h

end OneFile.Markup
