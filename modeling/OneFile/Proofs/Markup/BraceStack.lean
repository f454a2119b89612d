import Mathlib.Tactic.Common
import OneFile.Markup.Brace

/-!
# The stack of a scan of braces

A scan of braces has a mode and a stack of what is open. The two go together: the scan is among
literal characters just when a template string is what is innermost.

## Main definitions

* `OneFile.Markup.Brace.State.Fits` — the mode goes with the stack.
* `OneFile.Markup.Brace.Changes` — how one character changes the stack.

## Main results

* `OneFile.Markup.Brace.State.Fits.step` — what one character does to a scan.
-/

namespace OneFile.Markup.Brace

/-- Whether the scan is among literal characters of a template string. -/
def Mode.isLiteral : Mode → Bool
  | .literal | .literalEscape | .literalDollar => true
  | _ => false

/-- **The mode of a scan fits its stack**: it is among literal characters just when a template
string is what is innermost. -/
def State.Fits (state : State) : Prop :=
  state.mode.isLiteral = true ↔ state.stack.head? = some .template

/-- The mode fits where every scan starts. -/
lemma fits_initial : State.Fits .initial := by simp [State.Fits, State.initial, Mode.isLiteral]

/-- The mode fits in code, right after a brace was opened. -/
lemma fits_openBrace (stack : List Opening) : State.Fits ⟨.code, .brace :: stack⟩ := by
  simp [State.Fits, Mode.isLiteral]

/-- The mode fits among literal characters, right after a template string was opened. -/
lemma fits_openTemplate (stack : List Opening) : State.Fits ⟨.literal, .template :: stack⟩ := by
  simp [State.Fits, Mode.isLiteral]

/-- Going on among what is innermost, the mode fits and the stack stays. -/
lemma resume_eq_next {stack : List Opening} {state : State} (h : resume stack = .next state) :
    state.Fits ∧ state.stack = stack := by
  unfold resume at h
  split at h <;> obtain rfl := Step.next.inj h
  · exact ⟨fits_openTemplate _, rfl⟩
  · rename_i hne
    refine ⟨?_, rfl⟩
    cases stack with
    | nil => simp [State.Fits, Mode.isLiteral]
    | cons o below =>
      have ho : o ≠ .template := fun heq => hne below (by rw [heq])
      simp [State.Fits, Mode.isLiteral, ho]

/-- How the stack of a scan changes at a character: not at all, or by what the character opens or
closes. -/
inductive Changes (c : Char) (stack : List Opening) : List Opening → Prop
  | same : Changes c stack stack
  | openBrace (hc : c = '{') : Changes c stack (.brace :: stack)
  | openTemplate (hc : c = '`') : Changes c stack (.template :: stack)
  | closeBrace {below : List Opening} (hc : c = '}') (hstack : stack = .brace :: below) :
      Changes c stack below
  | closeTemplate {below : List Opening} (hc : c = '`') (hstack : stack = .template :: below) :
      Changes c stack below

/-- A character in code, where no template string is innermost. -/
lemma stepCode_eq_next {stack : List Opening} {c : Char} {state : State}
    (htop : stack.head? ≠ some .template) (h : stepCode stack c = .next state) :
    state.Fits ∧ Changes c stack state.stack := by
  have hstay : ∀ mode : Mode, mode.isLiteral = false → State.Fits ⟨mode, stack⟩ := by
    intro mode hmode
    simp [State.Fits, hmode, htop]
  unfold stepCode at h
  split_ifs at h with hquote htick hslash hopen hclose
  · obtain rfl := Step.next.inj h
    exact ⟨hstay _ rfl, .same⟩
  · obtain rfl := Step.next.inj h
    exact ⟨fits_openTemplate stack, .openTemplate htick⟩
  · obtain rfl := Step.next.inj h
    exact ⟨hstay _ rfl, .same⟩
  · obtain rfl := Step.next.inj h
    exact ⟨fits_openBrace stack, .openBrace hopen⟩
  · cases stack with
    | nil => cases h
    | cons o below =>
      obtain rfl : o = .brace := by cases o <;> simp_all
      simp only [closeBrace] at h
      split_ifs at h
      obtain ⟨hfits, hstack⟩ := resume_eq_next h
      exact ⟨hfits, .closeBrace hclose (by rw [hstack])⟩
  · obtain rfl := Step.next.inj h
    exact ⟨hstay _ rfl, .same⟩

/-- A literal character, where a template string is innermost. -/
lemma stepLiteral_eq_next {stack : List Opening} {c : Char} {state : State}
    (htop : stack.head? = some .template) (h : stepLiteral stack c = .next state) :
    state.Fits ∧ Changes c stack state.stack := by
  have hstay : ∀ mode : Mode, mode.isLiteral = true → State.Fits ⟨mode, stack⟩ := by
    intro mode hmode
    simp [State.Fits, hmode, htop]
  obtain ⟨below, rfl⟩ := List.head?_eq_some_iff.1 htop
  unfold stepLiteral at h
  split_ifs at h with hescape htick hdollar
  · obtain rfl := Step.next.inj h
    exact ⟨hstay _ rfl, .same⟩
  · obtain ⟨hfits, hstack⟩ := resume_eq_next h
    exact ⟨hfits, .closeTemplate htick (by rw [hstack, List.tail_cons])⟩
  · obtain rfl := Step.next.inj h
    exact ⟨hstay _ rfl, .same⟩
  · obtain rfl := Step.next.inj h
    exact ⟨hstay _ rfl, .same⟩

/-- **What one character does** to a scan whose mode fits its stack: the mode fits again, and the
stack changes by what the character opens or closes. -/
lemma State.Fits.step {state state' : State} {c : Char} (h : state.Fits)
    (hstep : Brace.step state c = .next state') :
    state'.Fits ∧ Changes c state.stack state'.stack := by
  obtain ⟨mode, stack⟩ := state
  have hcode : mode.isLiteral = false → stack.head? ≠ some .template := fun hmode htop => by
    simp [State.Fits, hmode, htop] at h
  have hliteral : mode.isLiteral = true → stack.head? = some .template := h.1
  have hstay : ∀ mode' : Mode, mode'.isLiteral = mode.isLiteral →
      State.Fits ⟨mode', stack⟩ := by
    intro mode' hmode
    rw [State.Fits, hmode]
    exact h
  unfold Brace.step at hstep
  cases mode with
  | code => exact stepCode_eq_next (hcode rfl) hstep
  | slash =>
    dsimp only at hstep
    split_ifs at hstep
    · obtain rfl := Step.next.inj hstep
      exact ⟨hstay _ rfl, .same⟩
    · obtain rfl := Step.next.inj hstep
      exact ⟨hstay _ rfl, .same⟩
    · exact stepCode_eq_next (hcode rfl) hstep
  | quoted quote =>
    dsimp only at hstep
    split_ifs at hstep <;> obtain rfl := Step.next.inj hstep <;> exact ⟨hstay _ rfl, .same⟩
  | literal => exact stepLiteral_eq_next (hliteral rfl) hstep
  | literalDollar =>
    dsimp only at hstep
    split_ifs at hstep with hopen
    · obtain rfl := Step.next.inj hstep
      exact ⟨fits_openBrace stack, .openBrace hopen⟩
    · exact stepLiteral_eq_next (hliteral rfl) hstep
  | quotedEscape quote =>
    obtain rfl := Step.next.inj hstep
    exact ⟨hstay _ rfl, .same⟩
  | literalEscape =>
    obtain rfl := Step.next.inj hstep
    exact ⟨hstay _ rfl, .same⟩
  | lineComment =>
    obtain rfl := Step.next.inj hstep
    exact ⟨hstay _ (by split_ifs <;> rfl), .same⟩
  | blockComment =>
    obtain rfl := Step.next.inj hstep
    exact ⟨hstay _ (by split_ifs <;> rfl), .same⟩
  | blockStar =>
    obtain rfl := Step.next.inj hstep
    exact ⟨hstay _ (by split_ifs <;> rfl), .same⟩

end OneFile.Markup.Brace
