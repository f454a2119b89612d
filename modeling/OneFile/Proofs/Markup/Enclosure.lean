import OneFile.Proofs.Markup.Composition

/-!
# Elements of components

A tag whose name starts with a capital letter stands for a component. Whether an element is void is
decided by its name in lower case; raw bodies and close tags go by the name as it is written. So a
component has children unless a void element has its name in lower case: then its opening tag closes
it, and its close tag finds nothing open.

## Main definitions

* `OneFile.Markup.IsComponentName` — a capital letter, and then characters of names.

## Main results

* `OneFile.Markup.isRaw_of_isComponentName` — the body of a component is not raw.
* `OneFile.Markup.parse_append_closeTag` — a close tag after a source that is read without an error.
* `OneFile.Markup.parse_enclosed_component` — what is read between the tags of a component.
* `OneFile.Markup.not_parse_enclosed_component` — a component that cannot have children.
-/

namespace OneFile.Markup

/-- **A component name**: a capital letter, and then characters of names. -/
def IsComponentName (name : Text) : Prop :=
  (∃ c ∈ name.head?, c.isUpper = true) ∧ ∀ c ∈ name, isNameChar c = true

variable {name body : Text} {document : Document}

/-- A component name is the name of an element. -/
lemma IsComponentName.isElementName (h : IsComponentName name) : IsElementName name := by
  obtain ⟨⟨c, hc, hupper⟩, hchars⟩ := h
  have halpha : (c.isUpper || c.isLower) = true := by rw [hupper, Bool.true_or]
  exact ⟨⟨c, hc, halpha⟩, hchars⟩

/-- The body of a component is not raw. -/
lemma isRaw_of_isComponentName (h : IsComponentName name) : isRaw name = false := by
  obtain ⟨⟨c, hc, hupper⟩, -⟩ := h
  rw [← Bool.not_eq_true]
  intro hraw
  simp only [isRaw, Bool.or_eq_true, beq_iff_eq] at hraw
  -- the names of elements with a raw body start with a small letter
  rcases hraw with rfl | rfl
  · obtain rfl : 's' = c := by simpa using hc
    exact absurd hupper (by decide)
  · obtain rfl : 's' = c := by simpa using hc
    exact absurd hupper (by decide)

/-! ### Close tags that find nothing open -/

/-- **After a source that is read without an error a close tag finds nothing open**, and is
reported where it starts.

**Proof sketch.** The steps that read the source read it with the close tag behind it, where text
ends, by `State.Steps.extend`. They leave no element open. -/
lemma parse_append_closeTag (hname : ∀ c ∈ name, isNameChar c = true)
    (h : parse body = .ok document) :
    parse (body ++ ("</".toList ++ (name ++ ">".toList))) =
      .error ⟨body.size, .unexpectedClosingTag name⟩ := by
  have hends : TextEnds ("</".toList ++ (name ++ ">".toList)) := by
    simp [textEnds_cons, startsMarkup]
  have hbody := ((State.steps_of_parse h).extend fun _ _ => hends).run_eq
  have hstop : (">".toList).head?.any isNameChar = false := rfl
  have hskip : Cursor.skipSpaces ⟨">".toList, body.size + 2 + name.size⟩ =
      ⟨">".toList, body.size + 2 + name.size⟩ := Cursor.skipSpaces_cons rfl
  have hclose : State.step ⟨document.nodes.reverse, [],
      ⟨"</".toList ++ (name ++ ">".toList), body.size⟩⟩ =
        .error ⟨body.size, .unexpectedClosingTag name⟩ := by
    rw [State.step_of_close (s := name ++ ">".toList) rfl]
    simp only [State.closeElement, Text.takeWhile_append_of_stop hname hstop,
      Text.dropWhile_append_of_stop hname hstop, hskip]
    rfl
  have hrun : State.run ⟨document.nodes.reverse, [],
      ⟨"</".toList ++ (name ++ ">".toList), body.size⟩⟩ =
        .error ⟨body.size, .unexpectedClosingTag name⟩ := by
    rw [State.run, dif_neg (by simp)]
    split
    · rename_i e herror
      rw [hclose] at herror
      cases herror
      rfl
    · rename_i hok
      rw [hclose] at hok
      cases hok
  unfold parse
  rw [show State.run ⟨[], [], ⟨body ++ ("</".toList ++ (name ++ ">".toList)), 0⟩⟩ = _
    from hbody.trans hrun]

/-! ### Tags of void elements -/

/-- **The opening tag of a void element closes it.** -/
lemma parse_voidTag (hname : IsElementName name) (hvoid : isVoid name = true) :
    parse ('<' :: name ++ ">".toList) =
      .ok ⟨[.element ⟨name, [], true⟩ [] ⟨0, name.size + 2⟩], ⟨0, name.size + 2⟩⟩ := by
  have hsize : Text.size ('<' :: name ++ ">".toList) = name.size + 2 := by
    have hlt : '<'.utf8Size = 1 := rfl
    have hgt : Text.size ">".toList = 1 := rfl
    rw [Text.size_append, Text.size_cons, hlt, hgt]
    omega
  have htag : Tag.WellFormed ⟨name, [], true⟩ := ⟨hname, by simp, by simp⟩
  obtain ⟨as, ⟨rest, offset⟩, hsame, rfl, hstep⟩ := State.step_render htag.legible false
    (fun _ => htag.not_endsInSlash) [] [] 0 []
  obtain rfl : as = [] := by simpa using hsame
  have hsource : Tag.render ⟨name, [], true⟩ ++ (tagEnd false ++ []) =
      '<' :: name ++ ">".toList := by
    simp [Tag.render, tagEnd]
  rw [hsource, hvoid, Bool.or_true, if_pos rfl] at hstep
  have hstop := ((State.faithful_start _).step hstep).offset_add_size
  rw [hsize] at hstop
  obtain rfl : offset = name.size + 2 := hstop
  unfold parse
  rw [State.run_of_step (by simp) hstep, State.run_end, hsize]
  rfl

/-! ### Elements of components -/

/-- **What is read between the tags of a component.** If a void element has its name in lower case,
the close tag is rejected; otherwise the component is an element with the nodes of the source
between its tags, further to the right.

**Proof sketch.** A component has no raw body, so the case of an element that is not void is
`parse_enclosed`. A void one is closed by its opening tag, and by `parse_append` what follows that
tag is read as if it stood alone. There the close tag finds nothing open. -/
theorem parse_enclosed_component (hname : IsComponentName name) (h : parse body = .ok document) :
    parse (enclosed name body) =
      if isVoid name then .error ⟨name.size + 2 + body.size, .unexpectedClosingTag name⟩
      else .ok ⟨[.element ⟨name, [], false⟩ (Node.shiftAll (name.size + 2) document.nodes)
        ⟨0, (enclosed name body).size⟩], ⟨0, (enclosed name body).size⟩⟩ := by
  cases hvoid : isVoid name with
  | false =>
    rw [if_neg Bool.false_ne_true]
    exact parse_enclosed hname.isElementName hvoid (isRaw_of_isComponentName hname) h
  | true =>
    have hopening := parse_voidTag hname.isElementName hvoid
    have hclosing := parse_append_closeTag hname.2 h
    have hsize : Text.size ('<' :: name ++ ">".toList) = name.size + 2 := by
      have hspan := parse_accounts_for_source hopening
      simpa using hspan.1.symm
    have hsource : enclosed name body =
        ('<' :: name ++ ">".toList) ++ (body ++ ("</".toList ++ (name ++ ">".toList))) := by
      simp [enclosed]
    rw [if_pos rfl, hsource, parse_append hopening (by simp [Node.isText]), hclosing, hsize]
    rfl

/-- A component with a text of two bytes, an expression and a line break in it. -/
theorem parse_enclosed_component_card :
    IsComponentName "Card".toList ∧
    parse (enclosed "Card".toList "é\x7bx\x7d<br>".toList) = .ok
      ⟨[.element ⟨"Card".toList, [], false⟩
        [.text "é".toList ⟨6, 8⟩, .expression "x".toList ⟨8, 11⟩,
          .element ⟨"br".toList, [], true⟩ [] ⟨11, 15⟩] ⟨0, 22⟩], ⟨0, 22⟩⟩ := by
  have hname : IsComponentName "Card".toList := ⟨⟨'C', rfl, rfl⟩, by simp [isNameChar]⟩
  have hbody : parse "é\x7bx\x7d<br>".toList = .ok
      ⟨[.text "é".toList ⟨0, 2⟩, .expression "x".toList ⟨2, 5⟩,
        .element ⟨"br".toList, [], true⟩ [] ⟨5, 9⟩], ⟨0, 9⟩⟩ := by
    decide +kernel
  exact ⟨hname, parse_enclosed_component hname hbody⟩

/-- **A component that cannot have children**: its name is that of a void element but for the
capital letter. -/
theorem not_parse_enclosed_component :
    IsComponentName "Link".toList ∧ parse "x".toList = .ok ⟨[.text "x".toList ⟨0, 1⟩], ⟨0, 1⟩⟩ ∧
      parse (enclosed "Link".toList "x".toList) =
        .error ⟨7, .unexpectedClosingTag "Link".toList⟩ := by
  refine ⟨⟨⟨'L', rfl, rfl⟩, by simp [isNameChar]⟩, ?_, ?_⟩ <;> decide +kernel

end OneFile.Markup
