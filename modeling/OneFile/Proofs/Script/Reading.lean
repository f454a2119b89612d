import OneFile.Proofs.Script.Rules
import OneFile.Script.Grammar

/-!
# What is read for a goal

Every goal of the grammar reads at least one token, and an expression that is found to be a string
is that one token and nothing else.

## Main definitions

* `OneFile.Script.State.Reads` — what an expression reads.
* `OneFile.Script.State.ReadsDirective` — reading a string as a statement of its own.
* `OneFile.Script.State.Keeps` — what goes on with an expression, and leaves a string alone.
* `OneFile.Script.Goal.Reads` — what a goal reads.

## Main results

* `OneFile.Script.Rule.advances_anyType`, `OneFile.Script.Rule.advances_bindingPattern` — types and
  patterns read a token.
* `OneFile.Script.Rule.gives_arrowFunction?` — an arrow function that may be next.

## Design

Only what comes up to the first token of a rule matters for the first part, and only the rules that
hand the shape of an operand on for the second one. Types, patterns, functions and classes start
with tokens of their own, so nothing has to be known of the goals within them.
-/

namespace OneFile.Script

/-! ### What is read -/

namespace State

/-- **A string is read**, and nothing else. -/
def ReadsString (st st' : State) : Prop :=
  st.current.token = .string ∧ st'.lastStop = st.current.span.stop

/-- **A string is read as a statement**: with a semicolon after it, or without. -/
def ReadsDirective (st st' : State) : Prop :=
  ∃ st₁, st.Leads st₁ ∧ st.ReadsString st₁ ∧ (st'.lastStop = st₁.lastStop ∨
    st₁.current.token = .punct .semicolon ∧ st'.lastStop = st₁.current.span.stop)

/-- **What an expression reads**: at least one token, and a string alone if it is a string. -/
def Reads (st : State) (s : Shape) (st' : State) : Prop :=
  st.Passes st' ∧ (s = .string → st.ReadsString st')

/-- What an attempt reads: nothing, or an expression that is no string. -/
def Tries (st : State) (read : Option Shape) (st' : State) : Prop :=
  match read with
  | none => st' = st
  | some s => st.Passes st' ∧ s ≠ .string

/-- **A string is kept**: an expression that is a string now was one before, and nothing has been
read since. -/
def Keeps (st : State) (s s' : Shape) (st' : State) : Prop :=
  s' = .string → s = .string ∧ st'.lastStop = st.lastStop

variable {st st₁ st₂ : State} {s s₁ s₂ : Shape}

/-- What goes nowhere keeps a string. -/
lemma Keeps.refl (st : State) (s : Shape) : st.Keeps s s st := fun hs => ⟨hs, rfl⟩

/-- Keeping a string and keeping it again is keeping it. -/
lemma Keeps.trans (h₁ : st.Keeps s s₁ st₁) (h₂ : st₁.Keeps s₁ s₂ st₂) : st.Keeps s s₂ st₂ := by
  intro hs
  obtain ⟨hs₁, hlast₁⟩ := h₂ hs
  obtain ⟨hs, hlast⟩ := h₁ hs₁
  exact ⟨hs, hlast₁.trans hlast⟩

/-- What keeps an expression that was read reads it, too. -/
lemma Reads.keeps (h : st.Reads s st₁) (hleads : st₁.Leads st₂) (hkeeps : st₁.Keeps s s₁ st₂) :
    st.Reads s₁ st₂ := by
  refine ⟨h.1.leads_trans hleads, fun hs => ?_⟩
  obtain ⟨hs, hlast⟩ := hkeeps hs
  obtain ⟨htoken, hstop⟩ := h.2 hs
  exact ⟨htoken, hlast.trans hstop⟩

end State

/-- **What a goal reads**: at least one token, and a string alone if it is a string. -/
def Goal.Reads : Goal → State → Shape → State → Prop
  | .statement _, st, s, st' => st.Passes st' ∧ (s = .string → st.ReadsDirective st')
  | _, st, s, st' => st.Reads s st'

/-- A goal reads a token, whatever it is. -/
lemma Goal.Reads.passes {g : Goal} {st st' : State} {s : Shape} (h : g.Reads st s st') :
    st.Passes st' := by cases g <;> exact h.1

namespace Rule

variable {α : Type} {eng : Engine} {st : State}

/-- A rule that reads a token, and returns no string. -/
lemma gives_reads {r : Rule Shape} (hpasses : Gives eng st r fun _ st' => st.Passes st')
    (hshape : Returns eng r (· ≠ .string)) : Gives eng st r (st.Reads) :=
  (hpasses.and (hshape st)).mono fun _ _ _ h => ⟨h.1, fun hs => absurd hs h.2⟩

/-- A rule for statements that reads a token, and returns no string. -/
lemma gives_readsStatement {r : Rule Shape} (alone : Bool)
    (hpasses : Gives eng st r fun _ st' => st.Passes st')
    (hshape : Returns eng r (· ≠ .string)) : Gives eng st r ((Goal.statement alone).Reads st) :=
  (hpasses.and (hshape st)).mono fun _ _ _ h => ⟨h.1, fun hs => absurd hs h.2⟩

/-- A rule after a token has been read, if it returns no string. -/
lemma Returns.reads {st₁ : State} {r : Rule Shape} (h : Returns eng r (· ≠ .string))
    (hpasses : st.Passes st₁) : Gives eng st₁ r st.Reads :=
  (h st₁).mono fun _ _ hleads hs => ⟨hpasses.leads_trans hleads, fun h => absurd h hs⟩

/-- A rule that returns no string keeps none. -/
lemma Returns.keeps {st₁ : State} {s : Shape} {r : Rule Shape} (h : Returns eng r (· ≠ .string)) :
    Gives eng st₁ r fun s' st' => st.Keeps s s' st' :=
  (h st₁).mono fun _ _ _ hs h => absurd h hs

/-! ### Names -/

/-- A name reads a token. -/
lemma advances_anyName : Advances eng anyName := fun _ =>
  atToken_atAnyWord.gives_ite passes_bumpName gives_fail

/-- Noting that a word is an operator leaves it next. -/
lemma gives_checkName (w : Word) :
    Gives eng st (checkName w) fun _ st' => st'.current = st.current :=
  stays_setting.gives_bind fun _ => (gives_noteIf _).mono fun _ _ _ h => h.1

/-- So does a name that is declared. -/
lemma advances_bindingName : Advances eng bindingName := fun st => by
  refine gives_word? (fun h w => ?_) gives_fail
  have hname : Gives eng st (checkName w >>= fun _ => bumpName) fun _ st' => st.Passes st' :=
    (gives_checkName w).bind fun _ st' hleads hcurrent =>
      (passes_bumpName (hcurrent ▸ h)).passes_from hleads
  exact gives_ite (fun _ => gives_fail) fun _ => hname

/-! ### Types -/

/-- A type that is named reads its name. -/
lemma advances_typeReference : Advances eng typeReference := .left advances_anyName

/-- A type of another module reads the word that it starts with. -/
lemma advances_importType : Advances eng importType := .left (advances_expectWord _)

/-- So does the type of a value. -/
lemma advances_typeQuery : Advances eng typeQuery := .left (advances_expectWord _)

/-- A mapped type reads its brace. -/
lemma advances_mappedType : Advances eng mappedType := .left (advances_expect _)

/-- So do the members of a type. -/
lemma advances_typeMembers : Advances eng typeMembers := .left (advances_expect _)

/-- Parameters read their parenthesis. -/
lemma advances_parameters : Advances eng parameters := .left (advances_expect _)

/-- The type of a function reads its parameters. -/
lemma advances_functionType : Advances eng functionType :=
  .right fun _ => .right fun _ => .right fun _ => .left advances_parameters

/-- A template reads a stretch of its text. -/
lemma advances_templateRest (item : Rule Unit) (valid : Bool) :
    Advances eng (templateRest item valid) := by
  refine fun st => gives_token ?_
  cases h : st.current.token with
  | template last valid =>
    have hend : st.current.token ≠ .endOfInput := by simp [h]
    cases last <;> exact (passes_bump hend).passes
  | _ => exact gives_fail

/-- A type without suffixes reads a token, which says what type it is. -/
lemma advances_simpleType : Advances eng simpleType := by
  refine fun st => gives_token ?_
  cases h : st.current.token with
  | string | number | bigint => exact passes_bump (by simp [h])
  | template last valid => exact (advances_templateRest _ true).left st
  | word w escaped =>
    have hend : st.current.token ≠ .endOfInput := by simp [h]
    dsimp only
    split
    · exact passes_bump hend
    · exact passes_bump hend
    · exact passes_bump hend
    · exact passes_bump hend
    · exact (passes_bump hend).passes
    · exact advances_typeQuery st
    · exact advances_importType st
    · exact (stays_afterNext _).gives_bind fun _ => gives_ite (fun _ => (passes_bump hend).passes)
        fun _ => advances_typeReference st
    · exact advances_typeReference st
  | punct p =>
    have hend : st.current.token ≠ .endOfInput := by simp [h]
    dsimp only
    split
    · exact (stays_afterNext _).gives_bind fun _ => gives_ite (fun _ => advances_mappedType st)
        fun _ => advances_typeMembers st
    · exact (passes_bump hend).passes
    · exact (passes_bump hend).passes
    · exact (passes_bump hend).passes
    · exact gives_fail
  | _ => exact gives_fail

/-- With suffixes it reads that token, too. -/
lemma advances_suffixedType : Advances eng suffixedType := .left advances_simpleType

/-- An operand of types reads its operator, or else its type. -/
lemma advances_typeOperand : Advances eng typeOperand := by
  refine fun st => gives_word? (fun hend w => ?_) ?_
  · split
    · exact (passes_bump hend).passes
    · exact (passes_bump hend).passes
    · exact (passes_bump hend).passes
    · exact (passes_bump hend).passes
    · exact advances_suffixedType.within st
  · exact advances_suffixedType.within st

/-- Types that are joined read the first of them. -/
lemma advances_joinedTypes (op : Punct) {item : Rule Unit} (h : Advances eng item) :
    Advances eng (joinedTypes op item) := by
  have hpart : Advances eng (do if ← atFunctionType then functionType else item) := by
    apply Advances.right
    intro atFunction
    exact advances_ite advances_functionType h
  apply Advances.right
  intro leading
  apply advances_ite
  · exact .left hpart
  · exact .left h

/-- **A type reads a token.** -/
lemma advances_anyType : Advances eng anyType := by
  have hunion : Advances eng (joinedTypes .bitOr (joinedTypes .bitAnd typeOperand)) :=
    advances_joinedTypes _ (advances_joinedTypes _ advances_typeOperand)
  apply Advances.right
  intro atFunction
  apply advances_ite
  · exact advances_functionType
  · exact .left hunion

/-! ### Patterns -/

/-- **A pattern reads a token**: a bracket, a brace or a name. -/
lemma advances_bindingPattern : Advances eng bindingPattern :=
  advances_eat (advances_eat (.left advances_bindingName))

/-- A pattern is no string. -/
lemma returns_bindingPattern : Returns eng bindingPattern (· ≠ .string) := by
  unfold bindingPattern
  apply Returns.last
  intro bracket
  apply Returns.ite
  · -- an array pattern
    exact .ends nofun
  · apply Returns.last
    intro brace
    apply Returns.ite
    · -- an object pattern
      exact .ends nofun
    · -- a name
      exact .ends nofun

/-! ### Functions and classes -/

/-- A function reads the word that it starts with. -/
lemma advances_functionFrom (place : FunctionPlace) : Advances eng (functionFrom place) :=
  .right fun _ => .left (advances_expectWord _)

/-- An arrow is read. -/
lemma advances_arrow : Advances eng arrow := .right fun _ => .right fun _ => advances_expect _

/-- What comes before the body of an arrow function ends in an arrow. -/
lemma advances_arrowHead : Advances eng arrowHead :=
  .right fun _ => .right fun _ => .left advances_arrow

/-- An arrow function is no string. -/
lemma returns_arrowBody (isAsync arrowType : Bool) :
    Returns eng (arrowBody isAsync arrowType) (· ≠ .string) := .ends nofun

/-- **An arrow function that may be next**: nothing is read if there is none. -/
lemma gives_arrowFunction? (arrowType : Bool) :
    Gives eng st (arrowFunction? arrowType) st.Tries := by
  refine gives_unlessNone ?_ rfl
  refine Stays.gives_bind (.bind (stays_look _) fun _ => stays_pure _) fun start => ?_
  cases start with
  | none => exact gives_pure nofun
  | certain =>
    refine (advances_arrowHead st).bind fun head st₁ _ hpasses => ?_
    refine (returns_arrowBody _ _ st₁).bind fun s st₂ hleads hs => ?_
    exact gives_pure fun _ => ⟨hpasses.leads_trans hleads, hs⟩
  | possible =>
    have hhead : Gives eng st (attempt arrowHead) fun head st' => head.isSome → st.Passes st' :=
      gives_attempt ((advances_arrowHead st).mono fun _ _ _ hpasses _ => hpasses) nofun
    refine hhead.bind fun head st₁ _ hpasses => ?_
    cases head with
    | none => exact gives_pure nofun
    | some head =>
      refine (returns_arrowBody _ _ st₁).bind fun s st₂ hleads hs => ?_
      refine (stays_atPunct _).gives_bind fun _ => gives_ite (fun _ => gives_pure nofun) fun _ => ?_
      exact gives_pure fun _ => ⟨(hpasses rfl).leads_trans hleads, hs⟩

/-- An asynchronous arrow function that may be next: nothing is read if there is none. -/
lemma gives_asyncArrowFunction? (arrowType : Bool) :
    Gives eng st (asyncArrowFunction? arrowType) st.Tries := by
  refine (stays_atWord _).gives_bind fun _ => gives_ite (fun _ => gives_pure rfl) fun _ => ?_
  refine (stays_afterNext _).gives_bind fun _ => gives_ite (fun _ => gives_pure rfl) fun _ => ?_
  refine gives_bind fun _ st₁ h₁ => gives_bind fun _ st₂ h₂ => ?_
  refine (advances_arrow st₂).bind fun _ st₃ _ hpasses => ?_
  refine (returns_arrowBody _ _ st₃).bind fun s st₄ hleads hs => gives_pure ⟨?_, hs⟩
  exact ((hpasses.of_leads h₂).of_leads h₁).leads_trans hleads

/-- A class reads the word that it starts with. -/
lemma advances_classFrom : Advances eng classFrom := .left (advances_expectWord _)

/-- So it does after decorators. -/
lemma advances_classExpression : Advances eng classExpression :=
  .right fun _ => .left advances_classFrom

end Rule

end OneFile.Script
