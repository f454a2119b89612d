import OneFile.Proofs.Script.Expressions

/-!
# What statements read

A statement reads at least one token, and is a string only if it is a string with a semicolon after
it or without. With that, all goals of the grammar read what they should.

## Main results

* `OneFile.Script.Rule.gives_anyStatement` — what a statement reads.
* `OneFile.Script.gives_read` — what is read for a goal, at any depth of nesting.

## Design

The assumption on the goals within a rule is discharged in the end, by induction on the depth of
nesting.
-/

namespace OneFile.Script

namespace Rule

variable {eng : Engine} {st : State}

/-! ### Parts that start with tokens of their own -/

/-- A namespace reads the word that it starts with. -/
lemma passes_namespaceDeclaration (hend : st.current.token ≠ .endOfInput) :
    Gives eng st namespaceDeclaration fun _ st' => st.Passes st' :=
  (stays_atWord _).gives_bind fun _ => (passes_bump hend).passes

/-- So does an export. -/
lemma advances_exportDeclaration : Advances eng exportDeclaration := .left (advances_expectWord _)

/-- An import is no string. -/
lemma returns_importDeclaration : Returns eng importDeclaration (· ≠ .string) := by
  unfold importDeclaration
  have hmodule : Returns eng (do
      expectWord .from
      moduleName
      return Shape.importDeclaration) (· ≠ .string) := .last fun _ => .ends nofun
  apply Returns.last
  intro _
  apply Returns.last
  intro next
  apply Returns.ite
  · -- a module that is imported for its effects
    exact .ends nofun
  · apply Returns.last
    intro named
    apply Returns.last
    intro comma
    apply Returns.last
    intro fromNext
    apply Returns.ite
    · -- an import by assignment
      exact .ends nofun
    · -- names come before the module, unless the default is all that is imported
      apply Returns.ite
      · apply Returns.last
        intro more
        exact .when hmodule
      · apply Returns.last
        intro more
        exact .when hmodule

/-- A block reads its brace. -/
lemma advances_block : Advances eng block := .left (advances_expect _)

/-- Asking for a function stays. -/
lemma stays_atFunction : Stays eng atFunction := by
  apply Stays.bind (stays_atWord .function)
  intro atFunction
  apply stays_ite (stays_pure true)
  apply Stays.bind (stays_atWord .async)
  intro atAsync
  exact stays_ite (stays_pure false) (stays_afterNext _)

/-- Asking for a resource that is declared stays. -/
lemma stays_atUsing : Stays eng atUsing := by
  apply Stays.bind (stays_atWord .await)
  intro atAwait
  apply stays_ite (stays_afterNext _)
  apply Stays.bind (stays_atWord .using)
  intro atUsing
  exact stays_ite (stays_pure false) (stays_afterNext _)

/-- Asking whether a statement can end stays. -/
lemma stays_canEnd : Stays eng canEnd :=
  .bind stays_token fun _ => by
    split
    · exact stays_pure _
    · exact stays_pure _
    · exact stays_pure _
    · exact stays_afterLineEnd

/-- The end of a statement is a semicolon, or nothing. -/
lemma gives_endStatement : Gives eng st endStatement fun _ st' => st'.lastStop = st.lastStop ∨
    st.current.token = .punct .semicolon ∧ st'.lastStop = st.current.span.stop := by
  refine (gives_eat _).bind fun b st₁ _ h₁ => ?_
  cases b with
  | true => exact gives_pure (.inr ⟨h₁.2.1, h₁.2.2.2⟩)
  | false =>
    obtain rfl : st₁ = st := h₁.2
    exact stays_canEnd.gives_bind fun _ =>
      gives_ite (fun _ => gives_fail) fun _ => gives_pure (.inl rfl)

section Statements

variable (hgoal : ∀ (g : Goal) (st : State), Gives eng st (goal g) (g.Reads st))

include hgoal

/-! ### Declarations -/

/-- Variables are declared by reading the first of them. -/
lemma advances_variableStatement (isConst isUsing : Bool) :
    Advances eng (variableStatement isConst isUsing) :=
  .left (.left (.left (advances_goal hgoal .binding)))

/-- A declaration reads the word that says what is declared. -/
lemma advances_declarationRest (mods : List Word) : Advances eng (declarationRest mods) := by
  refine fun st => gives_word? (fun hend w => ?_) gives_fail
  -- a rule after a violation of the modifiers has been noted
  have honly : ∀ {r : Rule Unit} {violated : Bool}, (∀ st', st'.current = st.current →
      Gives eng st' r fun _ st'' => st'.Passes st'') →
      Gives eng st (noteIf violated >>= fun _ => r) fun _ st' => st.Passes st' :=
    fun hr => (gives_noteIf _).bind fun _ st' hleads h => (hr st' h.1).passes_from hleads
  dsimp only
  split
  · exact honly fun _ h => passes_namespaceDeclaration (h ▸ hend)
  · exact honly fun _ h => passes_namespaceDeclaration (h ▸ hend)
  · exact honly fun _ h => (passes_bump (h ▸ hend)).passes
  · exact honly fun _ h => (passes_bump (h ▸ hend)).passes
  · exact honly fun _ h => (passes_bump (h ▸ hend)).passes
  · exact honly fun st' _ => (advances_expectWord _).left st'
  · exact honly fun st' _ => advances_classFrom st'
  · exact (passes_bump hend).passes
  · exact honly fun _ h => (passes_bump (h ▸ hend)).passes
  · exact honly fun _ h => (passes_bump (h ▸ hend)).passes
  · exact honly fun _ h => (passes_bump (h ▸ hend)).passes
  · -- a function, or resources that are declared
    have hfunction : Advances eng (functionFrom .declaration) := advances_functionFrom _
    refine Advances.right (fun atFunction => advances_ite ?_ ?_) st
    · exact .right fun _ => .left hfunction
    · apply Advances.right
      intro atUsing
      apply advances_ite
      · exact .right fun _ => .right fun _ => advances_variableStatement hgoal _ _
      · exact advances_fail

/-- So it does after modifiers. -/
lemma advances_typedDeclaration : Advances eng typedDeclaration :=
  .right fun _ => .within (advances_declarationRest hgoal _)

/-! ### Statements -/

/-- So does what is decorated. -/
lemma advances_decoratedStatement : Advances eng decoratedStatement := by
  apply Advances.right
  intro decorated
  apply Advances.right
  intro exported
  apply advances_ite
  · exact advances_exportDeclaration
  · apply Advances.right
    intro mods
    apply Advances.right
    intro atClass
    apply advances_ite
    · exact .left advances_fail
    · exact advances_declarationRest hgoal mods

/-- A string that is a statement of its own is read as one. -/
lemma gives_expressionStatement (alone : Bool) :
    Gives eng st expressionStatement ((Goal.statement alone).Reads st) := by
  refine (hgoal .expression st).bind fun s st₁ hleads₁ h₁ => ?_
  have hbody : ∀ {r : Rule Shape}, Returns eng r (· ≠ .string) →
      Gives eng st₁ r ((Goal.statement alone).Reads st) := fun hr =>
    (hr st₁).mono fun _ _ hleads hs => ⟨h₁.1.leads_trans hleads, fun h => absurd h hs⟩
  refine gives_ite (fun hname => ?_) fun _ => ?_
  · have hs : s ≠ .string := by
      rintro rfl
      simp at hname
    -- a label with its body, or the name of something
    apply hbody
    apply Returns.last
    intro labels
    exact .ite (.ends nofun) (.ends hs)
  · refine gives_pure_bind (gives_ite nofun fun _ => ?_)
    refine gives_endStatement.bind fun _ st₂ hleads₂ h₂ => gives_pure ?_
    exact ⟨h₁.1.leads_trans hleads₂, fun hs => ⟨st₁, hleads₁, h₁.2 hs, h₂⟩⟩

/-- A statement that is an expression reads a token. -/
lemma advances_expressionStatement : Advances eng expressionStatement :=
  .left (advances_goal hgoal .expression)

/-- So does one that starts with `let`, whatever comes of it. -/
lemma advances_letStatement (alone : Bool) : Advances eng (letStatement alone) := by
  refine .right fun next => ?_
  cases next with
  | none => exact advances_fail
  | some next =>
    obtain ⟨token, operates⟩ := next
    apply advances_ite
    · -- an expression that starts with a name
      exact .left (advances_expressionStatement hgoal)
    apply advances_ite
    · -- that name alone
      exact .left advances_bindingName
    · exact .right fun _ => .left (advances_variableStatement hgoal _ _)

/-- A statement that starts with a word. -/
lemma gives_wordStatement (alone : Bool) (w : Word) (hend : st.current.token ≠ .endOfInput) :
    Gives eng st (wordStatement alone w) ((Goal.statement alone).Reads st) := by
  have hunit : ∀ {r : Rule Unit}, Gives eng st r (fun _ st' => st.Passes st') →
      Gives eng st (r >>= fun _ => pure .other) ((Goal.statement alone).Reads st) :=
    fun hr => gives_readsStatement alone hr.passes (.ends nofun)
  have hbump : ∀ {r : Unit → Rule Unit}, Gives eng st ((bump >>= r) >>= fun _ => pure .other)
      ((Goal.statement alone).Reads st) := hunit (passes_bump hend).passes
  have hexpression : Gives eng st expressionStatement ((Goal.statement alone).Reads st) :=
    gives_expressionStatement hgoal alone
  unfold wordStatement
  dsimp only
  split
  · exact hbump
  · exact hbump
  · exact hbump
  · exact hbump
  · exact hbump
  · exact hbump
  · exact hbump
  · refine hunit (stays_setting.gives_bind fun _ => (gives_noteIf _).bind fun _ st' hleads h => ?_)
    exact (passes_bump (h.1 ▸ hend)).passes.passes_from hleads
  · exact hbump
  · exact hbump
  · exact hbump
  · exact hbump
  · exact hunit (advances_classFrom.left st)
  · exact hbump
  · exact hbump
  · exact hunit (advances_exportDeclaration st)
  · exact (stays_afterNext _).gives_bind fun _ => gives_ite (fun _ => hexpression) fun _ =>
      gives_readsStatement alone ((advances_expectWord _).left st) returns_importDeclaration
  · exact stays_token.gives_bind fun _ => gives_ite
      (fun _ => hunit (advances_letStatement hgoal alone st)) fun _ => hexpression
  · refine stays_atFunction.gives_bind fun _ => gives_ite (fun _ => ?_) fun _ => ?_
    · exact hunit ((advances_functionFrom _).left st)
    refine stays_atUsing.gives_bind fun _ => gives_ite (fun _ => ?_) fun _ => ?_
    · exact hunit ((Advances.right fun _ => .right fun _ =>
        .left (advances_variableStatement hgoal _ _)) st)
    refine (stays_ahead _).gives_bind fun _ => gives_ite (fun _ => ?_) fun _ => hexpression
    exact hunit (advances_typedDeclaration hgoal st)

/-- **A statement** is a string only if it is read as one. -/
lemma gives_anyStatement (alone : Bool) :
    Gives eng st (anyStatement alone) ((Goal.statement alone).Reads st) := by
  have hunit : ∀ {r : Rule Unit}, Gives eng st r (fun _ st' => st.Passes st') →
      Gives eng st (r >>= fun _ => pure .other) ((Goal.statement alone).Reads st) :=
    fun hr => gives_readsStatement alone hr.passes (.ends nofun)
  refine gives_token ?_
  split
  · exact hunit (advances_block st)
  · rename_i h
    exact hunit (passes_bump (by simp [h]))
  · exact hunit (advances_decoratedStatement hgoal st)
  · rename_i h
    exact gives_wordStatement hgoal alone _ (by simp [h])
  · exact gives_expressionStatement hgoal alone

end Statements

end Rule

/-! ### Goals -/

open Rule in
/-- What a goal is read by reads what it should, if the goals within it do. -/
lemma gives_rule {eng : Engine}
    (hgoal : ∀ (g : Goal) (st : State), Gives eng st (goal g) (g.Reads st)) (g : Goal)
    (st : State) : Gives eng st g.rule (g.Reads st) := by
  cases g with
  | statement alone => exact gives_anyStatement hgoal alone
  | expression => exact gives_sequenceExpression hgoal
  | assignment arrowType => exact gives_assignmentExpression hgoal arrowType
  | binary above => exact gives_binaryExpression hgoal above
  | unary => exact gives_unaryExpression hgoal
  | leftHand => exact gives_leftHandExpression hgoal
  | primary => exact gives_primaryExpression
  | binding => exact gives_reads (advances_bindingPattern st) returns_bindingPattern
  | type => exact gives_reads (advances_anyType.left st) (.ends nofun)
  | typeOperand => exact gives_reads (advances_typeOperand.left st) (.ends nofun)
  | tag inner => exact gives_tag inner

open Rule in
/-- **What is read for a goal**, at any depth of nesting: at least one token, and a string alone if
it is a string.

**Proof sketch.** Induction on the depth: the goals within a goal are read one level further
down. -/
theorem gives_read (depth : Nat) (g : Goal) (st : State) :
    Gives (read depth) st (goal g) (g.Reads st) := by
  induction depth generalizing g st with
  | zero => exact fun _ _ _ hr => nomatch hr
  | succ depth ih => exact fun set s st' hr => gives_rule ih g st set s st' hr

end OneFile.Script
