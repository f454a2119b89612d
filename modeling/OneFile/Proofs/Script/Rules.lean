import OneFile.Proofs.Script.Course

/-!
# What grammar rules give

A rule is judged at the place that it starts at, by what holds of its result and of the place that
it comes to. What reads the goals within the rule is the same throughout and stays in the
background.

## Main definitions

* `OneFile.Script.Rule.Gives` — what holds whenever a rule succeeds at a place.
* `OneFile.Script.Rule.Stays` — a rule that only looks.
* `OneFile.Script.Rule.AtToken` — a question whose answer is yes only where there is a token.
* `OneFile.Script.Rule.Advances` — a rule that reads a token wherever it succeeds.
* `OneFile.Script.Rule.Returns` — what holds of all results of a rule.

## Main results

* `OneFile.Script.Rule.Gives.bind` — one rule after another.
* `OneFile.Script.Rule.gives_loop` — a loop, by its invariant.
* `OneFile.Script.Rule.Returns.last`, `OneFile.Script.Rule.Returns.when` — what a rule returns is
  up to its last part.

## Design

Judgements are about one place, so a rule that asks for the next token is judged by cases on that
token. `Advances` needs two lemmas for a sequence: a token is read if the first part reads one, and
also if the second part does.
-/

namespace OneFile.Script.Rule

variable {α β σ : Type} {eng : Engine} {st : State} {r : Rule α} {f : α → Rule β}
  {P Q : α → State → Prop} {R : β → State → Prop}

/-! ### Judging rules -/

/-- **What a rule gives**: wherever it succeeds at the place, the condition holds of what it
returns and of the place that it comes to. -/
def Gives (eng : Engine) (st : State) (r : Rule α) (Q : α → State → Prop) : Prop :=
  ∀ set a (st' : st.Onward), r eng set st = some (a, st') → Q a st'.1

/-- The place that a rule comes to is further on. -/
lemma gives_leads (eng : Engine) (st : State) (r : Rule α) :
    Gives eng st r fun _ st' => st.Leads st' := fun _ _ st' _ => st'.2

/-- What is given may be stated more weakly, with the places further on. -/
lemma Gives.mono (h : Gives eng st r P) (hPQ : ∀ a st', st.Leads st' → P a st' → Q a st') :
    Gives eng st r Q := fun set a st' hr => hPQ a st'.1 st'.2 (h set a st' hr)

/-- Two things that a rule gives, it gives together. -/
lemma Gives.and (hP : Gives eng st r P) (hQ : Gives eng st r Q) :
    Gives eng st r fun a st' => P a st' ∧ Q a st' :=
  fun set a st' hr => ⟨hP set a st' hr, hQ set a st' hr⟩

/-- A result is given at the place that it stands at. -/
lemma gives_pure {a : α} (h : Q a st) : Gives eng st (pure a) Q := by
  intro set b st' hr
  obtain ⟨rfl, rfl⟩ := Prod.mk.inj (Option.some.inj hr)
  exact h

/-- A rule that fails gives anything. -/
lemma gives_fail : Gives eng st (fail : Rule α) Q := fun _ _ _ hr => nomatch hr

/-- **One rule after another.** -/
lemma Gives.bind (h : Gives eng st r P)
    (hf : ∀ a st', st.Leads st' → P a st' → Gives eng st' (f a) R) :
    Gives eng st (r >>= f) R := by
  intro set b st'' hr
  dsimp only [Bind.bind] at hr
  split at hr
  · simp at hr
  · rename_i a st' hfirst
    split at hr
    · simp at hr
    · rename_i b' st₂ hsecond
      obtain ⟨rfl, rfl⟩ := Prod.mk.inj (Option.some.inj hr)
      exact hf a st'.1 st'.2 (h set a st' hfirst) set _ st₂ hsecond

/-- A result that is handed on. -/
lemma gives_pure_bind {a : α} (h : Gives eng st (f a) R) : Gives eng st (pure a >>= f) R :=
  Gives.bind (P := fun b st' => b = a ∧ st' = st) (gives_pure ⟨rfl, rfl⟩) fun b st' _ hb => by
    obtain ⟨rfl, rfl⟩ := hb
    exact h

/-- One rule after another, whatever the first one does. -/
lemma gives_bind (hf : ∀ a st', st.Leads st' → Gives eng st' (f a) R) :
    Gives eng st (r >>= f) R := (gives_leads eng st r).bind fun a st' hleads _ => hf a st' hleads

/-- A case distinction gives what both its cases do. -/
lemma gives_ite {c : Prop} [Decidable c] {r r' : Rule α} (h : c → Gives eng st r Q)
    (h' : ¬ c → Gives eng st r' Q) : Gives eng st (if c then r else r') Q := by
  split
  · exact h ‹_›
  · exact h' ‹_›

/-- What a rule gives does not depend on what it is set to. -/
lemma gives_within {g : Setting → Setting} (h : Gives eng st r Q) :
    Gives eng st (within g r) Q := fun set => h (g set)

/-- What a step leads to. -/
lemma gives_step {next : State → State} (hnext : ∀ st : State, st.Step (next st))
    {Q : Unit → State → Prop} (h : Q () (next st)) : Gives eng st (step next hnext) Q := by
  intro set b st' hr
  obtain ⟨rfl, rfl⟩ := Prod.mk.inj (Option.some.inj hr)
  exact h

/-- An attempt gives what its rule does, or nothing at the place that it started at. -/
lemma gives_attempt {Q : Option α → State → Prop} (h : Gives eng st r fun a => Q (some a))
    (hnone : Q none st) : Gives eng st (attempt r) Q := by
  intro set a st' hr
  unfold attempt at hr
  split at hr
  · rename_i b st₁ hb
    obtain ⟨rfl, rfl⟩ := Prod.mk.inj (Option.some.inj hr)
    exact h set b _ hb
  · obtain ⟨rfl, rfl⟩ := Prod.mk.inj (Option.some.inj hr)
    exact hnone

/-- So does a rule whose reading is taken back if it returns nothing. -/
lemma gives_unlessNone {r : Rule (Option α)} {Q : Option α → State → Prop}
    (h : Gives eng st r fun a st' => a.isSome → Q a st') (hnone : Q none st) :
    Gives eng st (unlessNone r) Q := by
  intro set a st' hr
  unfold unlessNone at hr
  split at hr
  · rename_i b st₁ hb
    obtain ⟨rfl, rfl⟩ := Prod.mk.inj (Option.some.inj hr)
    exact h set _ _ hb rfl
  · obtain ⟨rfl, rfl⟩ := Prod.mk.inj (Option.some.inj hr)
    exact hnone
  · simp at hr

/-- Repeating a step keeps its invariant, from any place on. -/
lemma gives_repeatFrom {step : σ → Rule (σ ⊕ α)} (Inv : σ → State → Prop)
    (hstep : ∀ a st', st.Leads st' → Inv a st' → Gives eng st' (step a) fun x st'' =>
      x.elim (fun a' => Inv a' st'') (fun b => Q b st'')) (set : Setting) (n : Nat) (a : σ)
    (st₁ : st.Onward) (hinv : Inv a st₁.1) {b : α} {st' : st.Onward}
    (hr : repeatFrom step eng set n a st₁ = some (b, st')) : Q b st'.1 := by
  induction n generalizing a st₁ with
  | zero => simp [repeatFrom] at hr
  | succ n ih =>
    unfold repeatFrom at hr
    split at hr
    · simp at hr
    · rename_i a' st₂ hround
      exact ih a' (st₁.andThen st₂) (hstep a st₁.1 st₁.2 hinv set _ st₂ hround) hr
    · rename_i b' st₂ hround
      obtain ⟨rfl, rfl⟩ := Prod.mk.inj (Option.some.inj hr)
      exact hstep a st₁.1 st₁.2 hinv set _ st₂ hround

/-- **A loop, by its invariant.** The invariant holds at the start, is kept by every round that
goes on, and gives what is claimed at the end. -/
lemma gives_loop {step : σ → Rule (σ ⊕ α)} {a : σ} (Inv : σ → State → Prop) (hstart : Inv a st)
    (hstep : ∀ a st', st.Leads st' → Inv a st' → Gives eng st' (step a) fun x st'' =>
      x.elim (fun a' => Inv a' st'') (fun b => Q b st'')) :
    Gives eng st (loop step a) Q :=
  Gives.bind (P := fun _ st₀ => st₀ = st) (fun set b _ hr => by
      obtain ⟨rfl, rfl⟩ := Prod.mk.inj (Option.some.inj hr)
      rfl)
    fun set _ _ hst' set' b st'' hr => by
      subst hst'
      exact gives_repeatFrom Inv hstep set' _ a (.here _) hstart hr

/-! ### Rules that only look -/

/-- **A rule that only looks**: it comes to no other place. -/
def Stays (eng : Engine) (r : Rule α) : Prop := ∀ st, Gives eng st r fun _ st' => st' = st

/-- Looking first. -/
lemma Stays.gives_bind (h : Stays eng r) (hf : ∀ a, Gives eng st (f a) R) :
    Gives eng st (r >>= f) R :=
  (h st).bind fun a _ _ hst' => hst' ▸ hf a

/-- A result stays. -/
@[simp] lemma stays_pure (a : α) : Stays eng (pure a : Rule α) := fun _ => gives_pure rfl

/-- Looking and looking again stays. -/
@[simp] lemma Stays.bind (h : Stays eng r) (hf : ∀ a, Stays eng (f a)) : Stays eng (r >>= f) :=
  fun st => h.gives_bind fun a => hf a st

/-- A case distinction stays if both its cases do. -/
@[simp] lemma stays_ite {c : Prop} [Decidable c] {r r' : Rule α} (h : Stays eng r)
    (h' : Stays eng r') : Stays eng (if c then r else r') := by
  split
  · exact h
  · exact h'

/-- Asking for the place stays. -/
@[simp] lemma stays_here : Stays eng here := fun _ _ _ _ hr => by
  obtain ⟨rfl, rfl⟩ := Prod.mk.inj (Option.some.inj hr)
  rfl

/-- Asking for what is set stays. -/
@[simp] lemma stays_setting : Stays eng setting := fun _ _ _ _ hr => by
  obtain ⟨rfl, rfl⟩ := Prod.mk.inj (Option.some.inj hr)
  rfl

/-- Looking ahead stays, whatever is read meanwhile. -/
@[simp] lemma stays_look (r : Rule α) : Stays eng (look r) := by
  intro st set a st' hr
  unfold look at hr
  split at hr <;>
  · obtain ⟨rfl, rfl⟩ := Prod.mk.inj (Option.some.inj hr)
    rfl

/-- Asking what is ahead stays. -/
@[simp] lemma stays_ahead (r : Rule Bool) : Stays eng (ahead r) := by simp [ahead]

/-- Asking what comes after the next token stays. -/
@[simp] lemma stays_afterNext (r : Rule Bool) : Stays eng (afterNext r) := by simp [afterNext]

/-- Asking for the next token stays. -/
@[simp] lemma stays_token : Stays eng token := by simp [token]

/-- Asking whether it is on a new line stays. -/
@[simp] lemma stays_afterLineEnd : Stays eng afterLineEnd := by simp [afterLineEnd]

/-- Asking whether it is a punctuator stays. -/
@[simp] lemma stays_atPunct (p : Punct) : Stays eng (atPunct p) := by simp [atPunct]

/-- Asking whether it is a word stays. -/
@[simp] lemma stays_atWord (w : Word) : Stays eng (atWord w) :=
  Stays.bind stays_token fun t => by cases t <;> simp

/-! ### What is next -/

/-- Asking for the place. -/
lemma gives_here {f : State → Rule β} (h : Gives eng st (f st) R) : Gives eng st (here >>= f) R :=
  Gives.bind (P := fun st₁ st' => st₁ = st ∧ st' = st) (fun set st₁ st' hr => by
      obtain ⟨rfl, rfl⟩ := Prod.mk.inj (Option.some.inj hr)
      exact ⟨rfl, rfl⟩)
    fun st₁ st' _ h₁ => by
      obtain ⟨rfl, rfl⟩ := h₁
      exact h

/-- Asking for the next token. -/
lemma gives_token {f : Token → Rule β} (h : Gives eng st (f st.current.token) R) :
    Gives eng st (token >>= f) R :=
  Gives.bind (P := fun t st' => t = st.current.token ∧ st' = st)
    (gives_here (gives_pure ⟨rfl, rfl⟩)) fun t st' _ ht => by
      obtain ⟨rfl, rfl⟩ := ht
      exact h

/-- **A question whose answer is yes only where there is a token.** -/
def AtToken (eng : Engine) (q : Rule Bool) : Prop :=
  ∀ st, Gives eng st q fun b st' => st' = st ∧ (b = true → st.current.token ≠ .endOfInput)

/-- A case distinction by such a question. -/
lemma AtToken.gives_ite {q : Rule Bool} {r r' : Rule β} (h : AtToken eng q)
    (hyes : st.current.token ≠ .endOfInput → Gives eng st r R) (hno : Gives eng st r' R) :
    Gives eng st (q >>= fun b => if b = true then r else r') R :=
  (h st).bind fun b st' _ hst' => by
    obtain ⟨rfl, hb⟩ := hst'
    exact Rule.gives_ite (fun hc => hyes (hb hc)) fun _ => hno

/-- A question that is answered by the token alone. -/
lemma atToken_token {f : Token → Rule Bool} (hstays : ∀ t, Stays eng (f t))
    (hend : f .endOfInput = pure false) : AtToken eng (token >>= f) := by
  intro st
  refine gives_token ?_
  by_cases h : st.current.token = .endOfInput
  · rw [h, hend]
    exact gives_pure ⟨rfl, nofun⟩
  · exact (hstays _ st).mono fun b st' _ hst' => ⟨hst', fun _ => h⟩

/-- A question with more than such a question in it. -/
lemma AtToken.and {q : Rule Bool} {f : Bool → Rule Bool} (h : AtToken eng q)
    (hstays : ∀ b, Stays eng (f b)) (hno : f false = pure false) : AtToken eng (q >>= f) := by
  refine fun st => (h st).bind fun b st' _ hst' => ?_
  obtain ⟨rfl, hb⟩ := hst'
  cases b with
  | false =>
    rw [hno]
    exact gives_pure ⟨rfl, nofun⟩
  | true => exact (hstays true _).mono fun b st'' _ hst'' => ⟨hst'', fun _ => hb rfl⟩

/-- A word is a token. -/
lemma atToken_atWord (w : Word) : AtToken eng (atWord w) :=
  atToken_token (fun t => by cases t <;> simp) rfl

/-- The word that is next is a token. -/
lemma gives_word? {f : Option Word → Rule β} (hsome : st.current.token ≠ .endOfInput →
    ∀ w, Gives eng st (f (some w)) R) (hnone : Gives eng st (f none) R) :
    Gives eng st (word? >>= f) R := by
  have h : Gives eng st word? fun w st' =>
      st' = st ∧ (w.isSome → st.current.token ≠ .endOfInput) := by
    refine gives_token ?_
    split
    · rename_i htoken
      exact gives_pure ⟨rfl, fun _ => by simp [htoken]⟩
    · exact gives_pure ⟨rfl, nofun⟩
  refine h.bind fun w st' _ hst' => ?_
  obtain ⟨rfl, hw⟩ := hst'
  cases w with
  | none => exact hnone
  | some w => exact hsome (hw rfl) w

/-- So is any word. -/
lemma atToken_atAnyWord : AtToken eng atAnyWord := fun _ =>
  gives_word? (fun h _ => gives_pure ⟨rfl, fun _ => h⟩) (gives_pure ⟨rfl, nofun⟩)

/-! ### Reading tokens -/

/-- A token that is read. -/
lemma gives_advance (region : Region) (h : st.current.token ≠ .endOfInput) :
    Gives eng st (advance region) fun _ st' =>
      st.Passes st' ∧ st'.lastStop = st.current.span.stop :=
  gives_step (fun _ => .advance region) ⟨State.passes_advance region h, rfl⟩

/-- Noting leaves the token and what has been read as they are. -/
lemma gives_noteIf (violated : Bool) :
    Gives eng st (noteIf violated) fun _ st' =>
      st'.current = st.current ∧ st'.lastStop = st.lastStop := by
  cases violated with
  | false => exact gives_pure ⟨rfl, rfl⟩
  | true => exact gives_step (fun _ => .noted ..) ⟨rfl, rfl⟩

/-- A token that is read, whatever it is. -/
lemma gives_bump (h : st.current.token ≠ .endOfInput) :
    Gives eng st bump fun _ st' => st.Passes st' ∧ st'.lastStop = st.current.span.stop := by
  refine gives_token ?_
  have hread : ∀ st' : State, st.Leads st' → st'.current = st.current → Gives eng st'
      (advance .code) fun _ st'' => st.Passes st'' ∧ st''.lastStop = st.current.span.stop := by
    intro st' hleads hcurrent
    refine (gives_advance .code (hcurrent ▸ h)).mono fun _ st'' _ hst'' => ?_
    exact ⟨hst''.1.of_leads hleads, hst''.2.trans (by rw [hcurrent])⟩
  split
  · exact (gives_noteIf _).bind fun _ st' hleads hst' => hread st' hleads hst'.1
  · exact (stays_pure ()).gives_bind fun _ => hread st .refl rfl

/-- Whether a punctuator is next. -/
lemma gives_atPunct (p : Punct) : Gives eng st (atPunct p) fun b st' =>
    st' = st ∧ (b = true → st.current.token = .punct p) :=
  gives_token (gives_pure ⟨rfl, by simp⟩)

/-- **A punctuator that may be next** is read if it is, and nothing otherwise. -/
lemma gives_eat (p : Punct) : Gives eng st (eat p) fun b st' => st.Leads st' ∧
    if b then st.current.token = .punct p ∧ st.Passes st' ∧ st'.lastStop = st.current.span.stop
    else st' = st := by
  refine (gives_leads eng st _).and ((gives_atPunct p).bind fun b st' _ hst' => ?_)
  obtain ⟨rfl, hb⟩ := hst'
  refine gives_ite (fun hc => ?_) fun _ => gives_pure rfl
  have htoken := hb hc
  exact (gives_advance .code (by simp [htoken])).bind fun _ st'' _ hst'' =>
    gives_pure ⟨htoken, hst''⟩

/-- A word that may be next is read if it is, and nothing otherwise. -/
lemma gives_eatWord (w : Word) : Gives eng st (eatWord w) fun b st' =>
    if b then st.Passes st' else st' = st :=
  (atToken_atWord w).gives_ite
    (fun h => (gives_bump h).bind fun _ _ _ hst' => gives_pure hst'.1) (gives_pure rfl)

/-! ### Rules that read something -/

/-- **A rule that reads a token** wherever it succeeds. -/
def Advances (eng : Engine) (r : Rule α) : Prop := ∀ st, Gives eng st r fun _ st' => st.Passes st'

/-- A sequence reads a token if its first part does. -/
lemma Gives.passes (h : Gives eng st r fun _ st' => st.Passes st') :
    Gives eng st (r >>= f) fun _ st' => st.Passes st' :=
  h.bind fun _ st' _ hpasses => (gives_leads eng st' _).mono fun _ _ _ hleads =>
    hpasses.leads_trans hleads

/-- A sequence reads a token if its second part does. -/
lemma gives_passes (h : ∀ a, Advances eng (f a)) :
    Gives eng st (r >>= f) fun _ st' => st.Passes st' :=
  gives_bind fun a st' hleads => (h a st').mono fun _ _ _ hpasses => hpasses.of_leads hleads

/-- A rule that starts with one that reads a token reads one. -/
@[simp] lemma Advances.left (h : Advances eng r) : Advances eng (r >>= f) :=
  fun st => (h st).passes

/-- So does a rule that ends in one. -/
@[simp] lemma Advances.right (h : ∀ a, Advances eng (f a)) : Advances eng (r >>= f) :=
  fun _ => gives_passes h

/-- A rule that fails reads what one likes. -/
@[simp] lemma advances_fail : Advances eng (fail : Rule α) := fun _ => gives_fail

/-- Settings do not change whether a token is read. -/
@[simp] lemma Advances.within {g : Setting → Setting} (h : Advances eng r) :
    Advances eng (within g r) := fun st => gives_within (h st)

/-- A case distinction reads a token if both its cases do. -/
@[simp] lemma advances_ite {c : Prop} [Decidable c] {r r' : Rule α} (h : Advances eng r)
    (h' : Advances eng r') : Advances eng (if c then r else r') :=
  fun st => gives_ite (fun _ => h st) fun _ => h' st

/-- A punctuator that must be next is read. -/
@[simp] lemma advances_expect (p : Punct) : Advances eng (expect p) := by
  refine fun st => (gives_eat p).bind fun b st' _ hst' => ?_
  cases b with
  | false => exact gives_fail
  | true => exact gives_pure hst'.2.2.1

/-- A word that must be next is read. -/
@[simp] lemma advances_expectWord (w : Word) : Advances eng (expectWord w) := by
  refine fun st => (gives_eatWord w).bind fun b st' _ hst' => ?_
  cases b with
  | false => exact gives_fail
  | true => exact gives_pure hst'

/-- A token is read if a punctuator is, and also if it is not. -/
@[simp] lemma advances_eat {p : Punct} {r r' : Rule α} (h : Advances eng r') :
    Advances eng (eat p >>= fun b => if b = true then r else r') := by
  refine fun st => (gives_eat p).bind fun b st' _ hst' => ?_
  cases b with
  | false =>
    obtain rfl : st' = st := hst'.2
    exact h st'
  | true => exact (gives_leads eng st' _).mono fun _ _ _ hleads => hst'.2.2.1.leads_trans hleads

/-- A token that is read as a name. -/
lemma passes_bumpName (h : st.current.token ≠ .endOfInput) :
    Gives eng st bumpName fun _ st' => st.Passes st' :=
  (gives_advance .code h).mono fun _ _ _ hst' => hst'.1

/-- A token that is read, whatever it is. -/
lemma passes_bump (h : st.current.token ≠ .endOfInput) :
    Gives eng st bump fun _ st' => st.Passes st' := (gives_bump h).mono fun _ _ _ hst' => hst'.1

/-- A token that is read after a place is read from that place on. -/
lemma Gives.passes_from {st' : State} (h : Gives eng st' r fun _ st'' => st'.Passes st'')
    (hleads : st.Leads st') : Gives eng st' r fun _ st'' => st.Passes st'' :=
  h.mono fun _ _ _ hpasses => hpasses.of_leads hleads

/-! ### What rules return -/

/-- **What holds of all results** of a rule. -/
def Returns (eng : Engine) (r : Rule α) (p : α → Prop) : Prop :=
  ∀ st, Gives eng st r fun a _ => p a

variable {p : α → Prop} {q : β → Prop}

/-- A result is returned. -/
lemma Returns.pure {a : α} (h : p a) : Returns eng (pure a) p := fun _ => gives_pure h

/-- A rule that fails returns none. -/
lemma Returns.fail : Returns eng (fail : Rule α) p := fun _ => gives_fail

/-- What a sequence returns may depend on what its first part does. -/
lemma Returns.bind (h : Returns eng r p) (hf : ∀ a, p a → Returns eng (f a) q) :
    Returns eng (r >>= f) q := fun st => (h st).bind fun a st' _ ha => hf a ha st'

/-- What a sequence returns is what its last part does. -/
lemma Returns.last (h : ∀ a, Returns eng (f a) q) : Returns eng (r >>= f) q :=
  fun _ => gives_bind fun a st' _ => h a st'

/-- A sequence that ends with a result returns that. -/
lemma Returns.ends {b : β} (h : q b) : Returns eng (r >>= fun _ => Pure.pure b) q :=
  .last fun _ => .pure h

/-- A case distinction returns what both its cases do. -/
lemma Returns.ite {c : Prop} [Decidable c] {r r' : Rule α} (h : Returns eng r p)
    (h' : Returns eng r' p) : Returns eng (if c then r else r') p :=
  fun st => gives_ite (fun _ => h st) fun _ => h' st

/-- A part that is read only under a condition has no say in what is returned. -/
lemma Returns.when {c : Prop} [Decidable c] {rest : Rule β} (h : Returns eng rest q) :
    Returns eng (if c then r >>= fun _ => rest else rest) q := .ite (.last fun _ => h) h

end OneFile.Script.Rule
