import OneFile.Proofs.Script.Reading

/-!
# What expressions read

A primary expression is a string only if it is read as one. What goes on with an operand, such as
a call, an operator or a condition, keeps it as it is or makes it something else.

## Main results

* `OneFile.Script.Rule.gives_primaryExpression`, `OneFile.Script.Rule.gives_leftHandExpression`,
  `OneFile.Script.Rule.gives_unaryExpression`, `OneFile.Script.Rule.gives_binaryExpression`,
  `OneFile.Script.Rule.gives_assignmentExpression`, `OneFile.Script.Rule.gives_sequenceExpression`
  — what the goals for expressions read.
* `OneFile.Script.Rule.gives_callRest`, `OneFile.Script.Rule.gives_binaryRest` — what goes on with
  an operand.

## Design

Goals refer to each other, so each rule is judged under the assumption `hgoal` that the goals
within it read what they should.
-/

namespace OneFile.Script

namespace Rule

variable {eng : Engine} {st : State}

/-! ### Primary expressions -/

/-- A regular expression is one token. -/
lemma advances_regularExpression : Advances eng regularExpression := by
  unfold regularExpression
  apply Advances.right
  intro _ st
  apply gives_token
  apply gives_ite
  · intro _
    exact advances_fail.left st
  · intro h
    have htoken : st.current.token = .regex := by simpa using h
    exact (passes_bump (by simp [htoken])).passes

/-- A regular expression is no string. -/
lemma returns_regularExpression : Returns eng regularExpression (· ≠ .string) := by
  unfold regularExpression
  apply Returns.last
  intro _
  apply Returns.last
  intro next
  exact .when (.ends nofun)

/-- A string in parentheses is no string. -/
lemma returns_parenthesizedExpression : Returns eng parenthesizedExpression (· ≠ .string) :=
  .last fun _ => .last fun (_, _) => .last fun _ => by
    split
    · exact .fail
    · exact .fail
    · exact .pure nofun
    · exact .pure nofun

/-- The parent of a receiver is no string. -/
lemma returns_superExpression : Returns eng superExpression (· ≠ .string) :=
  .last fun _ => .last fun _ => by
    split
    · exact .pure nofun
    · exact .pure nofun
    · exact .pure nofun
    · exact .ends nofun

/-- A new object is no string, nor is what a function was called with. -/
lemma returns_newExpression : Returns eng newExpression (· ≠ .string) := by
  unfold newExpression
  apply Returns.last
  intro _
  apply Returns.last
  intro dot
  apply Returns.ite
  · -- what the function was called with
    exact .ends nofun
  · -- a constructor, what goes on with it, and its arguments if there are any
    apply Returns.last
    intro constructor
    apply Returns.last
    intro _
    apply Returns.last
    intro operand
    apply Returns.last
    intro called
    exact .when (.ends nofun)

/-- A dynamic import is no string, nor is what a module knows of itself. -/
lemma returns_importExpression : Returns eng importExpression (· ≠ .string) := by
  unfold importExpression
  have hcall : Returns eng (importArguments >>= fun _ => pure Shape.importCall) (· ≠ .string) :=
    .ends nofun
  apply Returns.last
  intro _
  apply Returns.last
  intro dot
  apply Returns.ite
  · apply Returns.last
    intro isMeta
    apply Returns.ite
    · -- what the module knows of itself
      exact .pure nofun
    · -- an import that says when the module is run
      apply Returns.last
      intro phased
      exact .when hcall
  · exact hcall

/-- **A primary expression** is a string only if it is read as one. -/
lemma gives_primaryExpression : Gives eng st primaryExpression st.Reads := by
  refine gives_token ?_
  cases h : st.current.token with
  | number | bigint =>
    exact gives_reads (passes_bump (by simp [h])).passes (.ends nofun)
  | string =>
    refine (gives_bump (by simp [h])).bind fun _ _ _ hst' => gives_pure ?_
    exact ⟨hst'.1, fun _ => ⟨h, hst'.2⟩⟩
  | template last valid =>
    exact gives_reads ((advances_templateRest _ true).left st)
      (.last fun _ => .ends nofun)
  | punct p =>
    have hend : st.current.token ≠ .endOfInput := by simp [h]
    dsimp only
    split
    · exact gives_reads (passes_bump hend).passes
        (.last fun _ => .last fun _ => .ends nofun)
    · exact gives_reads (passes_bump hend).passes
        (.last fun _ => .last fun _ => .ends nofun)
    · exact gives_reads (passes_bump hend).passes returns_parenthesizedExpression
    · exact gives_reads (advances_regularExpression st) returns_regularExpression
    · exact gives_reads (advances_regularExpression st) returns_regularExpression
    · exact gives_reads (advances_classExpression st) (.last fun _ => .ends nofun)
    · exact gives_fail
  | word w escaped =>
    have hend : st.current.token ≠ .endOfInput := by simp [h]
    have hbump : ∀ {r : Unit → Rule Shape}, Returns eng (bump >>= r) (· ≠ .string) →
        Gives eng st (bump >>= r) st.Reads := gives_reads (passes_bump hend).passes
    dsimp only
    split
    · exact hbump (.ends nofun)
    · exact hbump (.ends nofun)
    · exact hbump (.ends nofun)
    · exact hbump (.ends nofun)
    · exact hbump returns_superExpression
    · exact hbump returns_newExpression
    · exact hbump returns_importExpression
    · exact gives_reads (advances_classExpression st) (.last fun _ => .ends nofun)
    · have hreads : Advances eng (do
          if ← atFunction then
            let _ ← functionFrom .expression
            return Shape.other
          else
            bindingName
            return Shape.name) := by
        apply Advances.right
        intro atFunction
        exact advances_ite (.left (advances_functionFrom _)) (.left advances_bindingName)
      refine gives_reads (hreads st) ?_
      apply Returns.last
      intro atFunction
      exact .ite (.ends nofun) (.ends nofun)
  | _ => exact gives_fail

/-! ### Members and calls -/

/-- A property is no string. -/
lemma property_ne_string (chained : Bool) :
    (if chained then Shape.other else Shape.property) ≠ .string := by
  cases chained <;> nofun

/-- What goes on with an operand: nothing, or something that makes it no string. -/
def GoesOn (st : State) (read : Option Operand) (st' : State) : Prop :=
  match read with
  | none => st' = st
  | some o => o.shape ≠ .string

/-- A rule that always goes on, and makes no string, goes on with an operand. -/
lemma gives_goesOn {r : Rule (Option Operand)}
    (h : Returns eng r fun read => ∃ o, read = some o ∧ o.shape ≠ .string) :
    Gives eng st r (GoesOn st) :=
  (h st).mono fun _ _ _ ho => by
    obtain ⟨o, rfl, ho⟩ := ho
    exact ho

/-- Type arguments go on with an operand, unless they cannot be read. -/
lemma gives_typeArgumentsStep (o : Operand) :
    Gives eng st (attempt callTypeArguments >>= fun read =>
      match read with
      | some () => pure (some ⟨.instantiated o.shape, o.chained⟩)
      | none => pure none) (GoesOn st) := by
  have hattempt : Gives eng st (attempt callTypeArguments) fun read st' =>
      read = none → st' = st := gives_attempt (fun _ _ _ _ => nofun) fun _ => rfl
  refine hattempt.bind fun read st' _ hst' => ?_
  cases read with
  | none => exact gives_pure (hst' rfl)
  | some _ => exact gives_pure nofun

/-- A property, template, assertion or list of type arguments goes on with an operand. -/
lemma gives_memberStep (o : Operand) : Gives eng st (memberStep o) (GoesOn st) := by
  unfold memberStep
  dsimp only
  refine gives_token ?_
  split
  · exact gives_goesOn (.last fun _ => .ends ⟨_, rfl, property_ne_string _⟩)
  · refine stays_setting.gives_bind fun _ => gives_ite (fun _ => gives_pure rfl) fun _ => ?_
    exact gives_goesOn (.ends ⟨_, rfl, property_ne_string _⟩)
  · refine (stays_afterNext _).gives_bind fun _ => gives_ite (fun _ => gives_pure rfl) fun _ => ?_
    apply gives_goesOn
    apply Returns.last
    intro _
    apply Returns.last
    intro inBrackets
    exact .ite (.ends ⟨_, rfl, property_ne_string true⟩) (.ends ⟨_, rfl, property_ne_string true⟩)
  · exact gives_goesOn (.last fun _ => .ends ⟨_, rfl, nofun⟩)
  · refine stays_afterLineEnd.gives_bind fun _ => gives_ite (fun _ => gives_pure rfl) fun _ => ?_
    exact gives_goesOn (.ends ⟨_, rfl, nofun⟩)
  · exact gives_typeArgumentsStep o
  · exact gives_typeArgumentsStep o
  · exact gives_pure rfl

/-- All of them together keep the operand. -/
lemma gives_memberRest (o : Operand) :
    Gives eng st (memberRest o) fun o' st' => st.Keeps o.shape o'.shape st' := by
  refine gives_loop (fun o' st' => st.Keeps o.shape o'.shape st') (.refl st _) fun o₁ st₁ _ h₁ => ?_
  refine (gives_memberStep o₁).bind fun o₂ st₂ _ h₂ => ?_
  cases o₂ with
  | none =>
    obtain rfl : st₂ = st₁ := h₂
    exact gives_pure h₁
  | some o₂ => exact gives_pure fun hs => absurd hs h₂

/-- A round that makes no string goes on, whatever was kept before it. -/
lemma gives_round {σ : Type} (shape : σ → Shape) {st₁ : State} {s : Shape} {r : Rule (σ ⊕ σ)}
    (h : Returns eng r fun x => ∃ o, x = .inl o ∧ shape o ≠ .string) :
    Gives eng st₁ r fun x st' =>
      x.elim (fun o => st.Keeps s (shape o) st') fun o => st.Keeps s (shape o) st' :=
  (h st₁).mono fun _ _ _ hx => by
    obtain ⟨o, rfl, ho⟩ := hx
    exact fun hs => absurd hs ho

/-- **Calls and members keep the operand** that they go on with. -/
lemma gives_callRest (o : Operand) :
    Gives eng st (callRest o) fun o' st' => st.Keeps o.shape o'.shape st' := by
  refine gives_loop (fun o' st' => st.Keeps o.shape o'.shape st') (.refl st _) fun o₁ st₁ _ h₁ => ?_
  refine (gives_memberRest o₁).bind fun o₂ st₂ _ h₂ => ?_
  refine (gives_eat _).bind fun b st₃ _ h₃ => ?_
  cases b with
  | true =>
    apply gives_round Operand.shape
    apply Returns.last
    intro typed
    apply Returns.last
    intro next
    split
    · -- a template, which has no place here
      exact .last fun _ => .ends ⟨_, rfl, nofun⟩
    · -- arguments, which have to be there unless there are type arguments
      apply Returns.last
      intro called
      exact .ite (.ends ⟨_, rfl, nofun⟩) (.ends ⟨_, rfl, nofun⟩)
  | false =>
    obtain rfl : st₃ = st₂ := h₃.2
    refine (stays_atPunct _).gives_bind fun _ => gives_ite (fun _ => ?_) fun _ => ?_
    · exact gives_round Operand.shape (.ends ⟨_, rfl, nofun⟩)
    · exact gives_pure (h₁.trans h₂)

/-! ### Questions -/

/-- Asking for an operator before its operand stays. -/
lemma stays_atUnaryOperator : Stays eng atUnaryOperator :=
  .bind stays_token fun _ => by split <;> exact stays_pure _

/-- Asking for an assignment stays. -/
lemma stays_atAssignmentOperator : Stays eng atAssignmentOperator :=
  .bind stays_token fun _ => by split <;> exact stays_pure _

/-- Asking for an increment or decrement stays. -/
lemma stays_atUpdateOperator : Stays eng atUpdateOperator :=
  .bind (stays_atPunct _) fun _ => .bind (stays_atPunct _) fun _ => stays_pure _

/-- Asking for a binary operator stays. -/
lemma stays_atBinaryOperator : Stays eng atBinaryOperator :=
  .bind (stays_atWord _) fun _ => .bind stays_setting fun _ =>
    stays_ite (stays_pure _) (.bind stays_token fun _ => stays_pure _)

/-- Asking whether a value is waited for stays. -/
lemma stays_atAwait : Stays eng atAwait :=
  .bind (stays_atWord _) fun _ => .bind stays_setting fun _ => stays_pure _

/-- Where a generator gives a value, there is a token that says so. -/
lemma atToken_atYield : AtToken eng atYield :=
  (atToken_atWord _).and (fun _ => .bind stays_setting fun _ => stays_pure _) rfl

/-- An increment or decrement is no string. -/
lemma returns_updateTarget (s : Shape) : Returns eng (updateTarget s) (· ≠ .string) :=
  .ends nofun

/-- What an operator makes is no string. -/
lemma returns_combine (op : Token) (leftInParens rightInParens : Bool) (left right : Shape) :
    Returns eng (combine op leftInParens rightInParens left right) (· ≠ .string) := by
  unfold combine
  split
  · exact .ends nofun
  · exact .pure nofun
  · exact .pure nofun
  · exact .ends nofun
  · exact .pure nofun

/-! ### Operators and conditions -/

/-- The operators that go on with an operand make it no string. -/
lemma gives_binaryRest (above : Nat) (leftInParens : Bool) (left : Shape) :
    Gives eng st (binaryRest above leftInParens left) fun s st' => st.Keeps left s st' := by
  refine gives_loop (fun s st' => st.Keeps left s st') (.refl st left) fun s st₁ _ h₁ => ?_
  have hjoin : Gives eng st₁ joinGreater fun _ st' => st'.lastStop = st₁.lastStop :=
    gives_step (fun _ => .retake _) rfl
  refine hjoin.bind fun _ st₂ _ hlast => ?_
  have h₂ : st.Keeps left s st₂ := h₁.trans fun hs => ⟨hs, hlast⟩
  refine gives_token ?_
  cases hlevel : st₂.current.token.level? with
  | none => exact gives_pure h₂
  | some level =>
    dsimp only
    refine stays_atBinaryOperator.gives_bind fun _ => gives_ite (fun _ => gives_pure h₂) fun _ => ?_
    refine (stays_atWord _).gives_bind fun _ => (stays_atWord _).gives_bind fun _ => ?_
    refine gives_ite (fun _ => ?_) fun _ => ?_
    · refine stays_afterLineEnd.gives_bind fun _ => gives_ite (fun _ => gives_pure h₂) fun _ => ?_
      exact gives_round id (.last fun _ => .ends ⟨_, rfl, nofun⟩)
    · apply gives_round id
      apply Returns.last
      intro _
      apply Returns.last
      intro rightInParens
      apply Returns.last
      intro right
      exact (returns_combine _ _ _ _ _).bind fun _ hs => .pure ⟨_, rfl, hs⟩

/-- What goes on with an operand that is no string makes none of it. -/
lemma returns_binaryRest {above : Nat} {leftInParens : Bool} {left : Shape}
    (hleft : left ≠ .string) : Returns eng (binaryRest above leftInParens left) (· ≠ .string) :=
  fun _ => (gives_binaryRest above leftInParens left).mono fun _ _ _ h hs => hleft (h hs).1

/-- A conditional expression is no string. -/
lemma gives_conditionalRest (arrowType : Bool) (condition : Shape) :
    Gives eng st (conditionalRest arrowType condition) fun s st' => st.Keeps condition s st' := by
  refine (gives_eat _).bind fun b st₁ _ h₁ => ?_
  cases b with
  | false =>
    obtain rfl : st₁ = st := h₁.2
    exact gives_pure (.refl _ _)
  | true => exact Returns.keeps (.last fun _ => .last fun _ => .ends nofun)

/-- A value that a generator gives is no string. -/
lemma returns_yieldExpression : Returns eng yieldExpression (· ≠ .string) := by
  unfold yieldExpression
  have hbare : Returns eng (pure Shape.other) (· ≠ .string) := .pure nofun
  have hvalue : Returns eng (skip (.assignment true) >>= fun _ => pure Shape.other)
      (· ≠ .string) := .ends nofun
  apply Returns.last
  intro _
  apply Returns.last
  intro onNewLine
  apply Returns.ite
  · apply Returns.last
    intro star
    apply Returns.ite
    · exact hvalue
    · -- there is a value, unless the token that is next cannot start one
      apply Returns.last
      intro next
      split <;> first | exact hbare | exact hvalue
  · exact hbare

/-- A tag starts with a token of its own. -/
lemma gives_tag (inner : Bool) : Gives eng st (tag inner) st.Reads := by
  refine gives_reads ((advances_expect .less).left st) ?_
  -- every tag ends by leaving its last bracket
  have hleave : Returns eng (leave .greater inner >>= fun _ => pure Shape.other) (· ≠ .string) :=
    .ends nofun
  have hclosing : ∀ {r : Rule Unit}, Returns eng
      (r >>= fun _ => leave .greater inner >>= fun _ => pure Shape.other) (· ≠ .string) :=
    .last fun _ => hleave
  unfold tag
  apply Returns.last
  intro _
  apply Returns.last
  intro bare
  apply Returns.ite
  · -- empty brackets, contents, and empty brackets that close them
    exact .last fun _ => .last fun _ => .last fun _ => hclosing
  · apply Returns.last
    intro name
    apply Returns.last
    intro _
    apply Returns.last
    intro _
    apply Returns.last
    intro slash
    apply Returns.ite
    · exact hleave
    · -- contents, and a closing tag
      exact .last fun _ => .last fun _ => .last fun _ => .last fun _ => .last fun _ => hclosing

/-! ### Expressions -/

section Expressions

variable (hgoal : ∀ (g : Goal) (st : State), Gives eng st (goal g) (g.Reads st))

include hgoal

/-- A goal reads a token. -/
lemma advances_goal (g : Goal) : Advances eng (goal g) :=
  fun st => (hgoal g st).mono fun _ _ _ h => h.passes

/-- So it does if what it returns is not asked for. -/
lemma advances_skip (g : Goal) : Advances eng (skip g) := .left (advances_goal hgoal g)

/-- An expression before an assignment is a string only if it is one without calls and members. -/
lemma gives_leftHandExpression : Gives eng st leftHandExpression st.Reads := by
  refine (hgoal .primary st).bind fun s st₁ _ h₁ => ?_
  refine (gives_callRest _).bind fun o st₂ hleads h₂ => gives_pure ?_
  refine State.Reads.keeps h₁ hleads fun hs => ?_
  split at hs
  · exact nomatch hs
  · exact h₂ hs

/-- An operator before or after an expression makes it no string. -/
lemma gives_unaryExpression : Gives eng st unaryExpression st.Reads := by
  refine stays_atUnaryOperator.gives_bind fun _ => gives_ite (fun _ => ?_) fun _ => ?_
  · exact gives_reads ((Advances.right fun _ => .left (advances_skip hgoal _)) st)
      (.last fun _ => .ends nofun)
  refine stays_atAwait.gives_bind fun _ => gives_ite (fun _ => ?_) fun _ => ?_
  · exact gives_reads ((Advances.right fun _ => .left (advances_skip hgoal _).within) st)
      (.last fun _ => .ends nofun)
  refine stays_atUpdateOperator.gives_bind fun _ => gives_ite (fun _ => ?_) fun _ => ?_
  · exact gives_reads ((Advances.right fun _ => .left (advances_goal hgoal _)) st)
      (.last fun _ => .last fun _ => returns_updateTarget _)
  refine (stays_atPunct _).gives_bind fun _ =>
    gives_ite (fun _ => hgoal (.tag false) st) fun _ => ?_
  refine (hgoal .leftHand st).bind fun s st₁ _ h₁ => ?_
  refine stays_afterLineEnd.gives_bind fun _ => stays_atUpdateOperator.gives_bind fun _ => ?_
  refine gives_ite (fun _ => ?_) fun _ => gives_pure h₁
  have hupdate : Returns eng (bump >>= fun _ => updateTarget s) (· ≠ .string) :=
    .last fun _ => returns_updateTarget s
  exact (hupdate st₁).mono fun _ _ hleads hs => h₁.keeps hleads fun h => absurd h hs

/-- So does an operator between two of them. -/
lemma gives_binaryExpression (above : Nat) :
    Gives eng st (binaryExpression above) st.Reads := by
  refine (stays_atPunct _).gives_bind fun inParens => stays_token.gives_bind fun _ => ?_
  refine stays_setting.gives_bind fun _ => gives_ite (fun _ => ?_) fun _ => ?_
  · -- a private name, of which is asked whether an object has it
    have hrest : Returns eng (pure .other >>= fun left => binaryRest above inParens left)
        (· ≠ .string) := .bind (.pure nofun) fun _ => returns_binaryRest
    refine gives_reads ((Advances.right fun _ => .left (advances_expectWord _)) st) ?_
    apply Returns.last
    intro _
    apply Returns.last
    intro _
    apply Returns.last
    intro _
    exact .when hrest
  · refine (hgoal .unary st).bind fun s st₁ _ h₁ => ?_
    exact (gives_binaryRest _ _ _).mono fun _ _ hleads h₂ => State.Reads.keeps h₁ hleads h₂

/-- So does an arrow, an assignment or a condition. -/
lemma gives_assignmentExpression (arrowType : Bool) :
    Gives eng st (assignmentExpression arrowType) st.Reads := by
  refine atToken_atYield.gives_ite
    (fun hend => gives_reads (passes_bump hend).passes returns_yieldExpression) ?_
  refine (gives_arrowFunction? arrowType).bind fun read st₁ _ h₁ => ?_
  cases read with
  | some s => exact gives_pure ⟨h₁.1, fun hs => absurd hs h₁.2⟩
  | none =>
    obtain rfl : st₁ = st := h₁
    refine (gives_asyncArrowFunction? arrowType).bind fun read st₂ _ h₂ => ?_
    cases read with
    | some s => exact gives_pure ⟨h₂.1, fun hs => absurd hs h₂.2⟩
    | none =>
      obtain rfl : st₂ = st₁ := h₂
      refine (hgoal (.binary 0) st₂).bind fun s st₃ _ h₃ => ?_
      refine (stays_atPunct _).gives_bind fun _ => gives_ite (fun _ => ?_) fun _ => ?_
      · exact (Returns.last fun _ => returns_arrowBody _ _).reads h₃.1
      refine stays_atAssignmentOperator.gives_bind fun _ => gives_ite (fun _ => ?_) fun _ => ?_
      · refine Returns.reads ?_ h₃.1
        apply Returns.last
        intro plain
        apply Returns.ite
        · -- a target, which may be a pattern
          exact .last fun _ => .last fun _ => .ends nofun
        · exact .last fun _ => .last fun _ => .ends nofun
      · exact (gives_conditionalRest _ _).mono fun _ _ hleads h => State.Reads.keeps h₃ hleads h

/-- **An expression** is a string only if it is read as one: a comma makes it none. -/
lemma gives_sequenceExpression : Gives eng st sequenceExpression st.Reads := by
  refine gives_within ((hgoal (.assignment true) st).bind fun s st₁ _ h₁ => ?_)
  refine (stays_atPunct _).gives_bind fun _ => gives_ite (fun _ => gives_pure h₁) fun _ => ?_
  exact Returns.reads (.ends nofun) h₁.1

end Expressions

end Rule

end OneFile.Script
