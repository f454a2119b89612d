import Mathlib.Tactic.Common
import OneFile.Markup.Brace
import OneFile.Markup.Printer
import OneFile.Proofs.Text.Boundary

/-!
# Facts about balanced braces

A successful scan ends right after a closing brace and never looks further. So an expression that
is balanced on its own is read back from its braces whatever follows it.

## Main definitions

* `OneFile.Markup.Brace.Closed` — an expression whose braces balance just at their end.

## Main results

* `OneFile.Markup.Brace.afterClosing?_append`, `OneFile.Markup.Brace.afterClosing?_of_append` — a
  scan does not look beyond the closing brace.
* `OneFile.Markup.Brace.inside?_eq_some` — a braced expression that was read is what stands there.
* `OneFile.Markup.Brace.Closed.inside?_braced_append` — a closed expression is read back.
-/

namespace OneFile.Markup.Brace

/-! ### How a scan ends -/

/-- Going on among what is open never closes the outermost brace. -/
lemma resume_ne_closed (stack : List Opening) : resume stack ≠ .closed := by
  unfold resume
  split <;> simp

/-- In code only a closing brace closes the outermost one. -/
lemma stepCode_eq_closed {stack : List Opening} {c : Char} (h : stepCode stack c = .closed) :
    c = '}' := by
  unfold stepCode at h
  split_ifs at h
  assumption

/-- In the literal part of a template string nothing closes the outermost brace. -/
lemma stepLiteral_ne_closed (stack : List Opening) (c : Char) :
    stepLiteral stack c ≠ .closed := by
  unfold stepLiteral
  split_ifs
  · simp
  · exact resume_ne_closed _
  · simp
  · simp

/-- **Only a closing brace ends a scan.** -/
lemma step_eq_closed {state : State} {c : Char} (h : step state c = .closed) : c = '}' := by
  obtain ⟨mode, stack⟩ := state
  cases mode <;> simp only [step] at h
  case code => exact stepCode_eq_closed h
  case slash =>
    split_ifs at h
    exact stepCode_eq_closed h
  case quoted => split_ifs at h
  case literal => exact absurd h (stepLiteral_ne_closed stack c)
  case literalDollar =>
    split_ifs at h
    exact absurd h (stepLiteral_ne_closed stack c)
  all_goals simp at h

/-- A successful scan ends right after a closing brace. -/
lemma afterClosing?_closes {state : State} {s after : Text}
    (h : afterClosing? state s = some after) : ∃ body, s = body ++ '}' :: after := by
  induction s generalizing state with
  | nil => simp [afterClosing?] at h
  | cons c s ih =>
    simp only [afterClosing?] at h
    split at h
    · obtain ⟨body, rfl⟩ := ih h
      exact ⟨c :: body, rfl⟩
    · rename_i hc
      obtain rfl := step_eq_closed hc
      obtain rfl : s = after := by simpa using h
      exact ⟨[], rfl⟩
    · simp at h

/-- **A scan does not look beyond the closing brace.** -/
theorem afterClosing?_append {state : State} {s after : Text} (t : Text)
    (h : afterClosing? state s = some after) :
    afterClosing? state (s ++ t) = some (after ++ t) := by
  induction s generalizing state with
  | nil => simp [afterClosing?] at h
  | cons c s ih =>
    simp only [afterClosing?, List.cons_append] at h ⊢
    split at h
    · exact ih h
    · obtain rfl : s = after := by simpa using h
      rfl
    · simp at h

/-- A scan that ends before the end of the text does not need what follows. -/
theorem afterClosing?_of_append {state : State} {s after t : Text}
    (h : afterClosing? state (s ++ t) = some (after ++ t)) :
    afterClosing? state s = some after := by
  induction s generalizing state with
  | nil =>
    have hlength := length_lt_of_afterClosing? h
    simp only [List.nil_append, List.length_append] at hlength
    omega
  | cons c s ih =>
    simp only [afterClosing?, List.cons_append] at h ⊢
    split at h
    · exact ih h
    · have hrest : s ++ t = after ++ t := by simpa using h
      rw [List.append_cancel_right hrest]
    · simp at h

/-! ### Expressions in braces -/

/-- The braces of an expression take a byte each. -/
@[simp] lemma size_braced (source : Text) : (braced source).size = source.size + 2 := by
  have hopen : '{'.utf8Size = 1 := rfl
  have hclose : '}'.utf8Size = 1 := rfl
  simp only [braced, List.cons_append, Text.size_cons, Text.size_append, Text.size_nil]
  omega

/-- **Which expression is read**: what the scan passes over before what is left, without its first
and its last character. -/
theorem inside?_eq_some_iff {s source after : Text} : inside? s = some (source, after) ↔
    afterClosing? .initial s = some after ∧
      ∃ whole, s = whole ++ after ∧ source = whole.tail.dropLast := by
  constructor
  · intro h
    obtain ⟨⟨whole, a⟩, hbalanced, heq⟩ := Option.map_eq_some_iff.1 h
    have hwhole := balanced?_eq_some hbalanced
    obtain ⟨a', hscan, heq'⟩ := Option.map_eq_some_iff.1 hbalanced
    simp only [Prod.mk.injEq] at heq heq'
    obtain ⟨rfl, rfl⟩ := heq
    obtain ⟨-, rfl⟩ := heq'
    exact ⟨hscan, whole, hwhole, rfl⟩
  · rintro ⟨hscan, whole, rfl, rfl⟩
    have hlength : (whole ++ after).length - after.length = whole.length := by simp
    simp only [inside?, balanced?, hscan, Option.map_some, hlength, List.take_left']

/-- A braced expression that was read is what stands at the place, before what is left. -/
theorem inside?_eq_some {s source after : Text} (h : inside? ('{' :: s) = some (source, after)) :
    '{' :: s = braced source ++ after := by
  obtain ⟨hscan, whole, hwhole, rfl⟩ := inside?_eq_some_iff.1 h
  obtain ⟨body, rfl⟩ : ∃ body, s = body ++ '}' :: after :=
    afterClosing?_closes (show afterClosing? ⟨.code, [.brace]⟩ s = some after from hscan)
  have hbody : '{' :: (body ++ '}' :: after) = ('{' :: body ++ ['}']) ++ after := by simp
  obtain rfl : '{' :: body ++ ['}'] = whole := List.append_cancel_right (hbody.symm.trans hwhole)
  rw [hbody]
  simp [braced]

/-- **A closed expression**: its braces, put around it, balance at their very end. -/
def Closed (source : Text) : Prop := endFrom? (braced source) 0 = some (braced source).size

/-- The scan of a closed expression in its braces leaves nothing. -/
lemma Closed.afterClosing?_braced {source : Text} (h : Closed source) :
    afterClosing? .initial (braced source) = some [] := by
  obtain ⟨after, ha, hs⟩ := Option.map_eq_some_iff.1 h
  rw [Text.dropBytes] at ha
  obtain ⟨body, hb⟩ := afterClosing?_closes ha
  have hsize : after.size ≤ (braced source).size := by rw [hb]; simp; omega
  have hpos : 0 < (braced source).size := Text.size_pos (by simp [braced])
  obtain rfl : after = [] := Text.size_eq_zero.1 (by omega)
  exact ha

/-- An expression that was read from its braces balances in them. -/
lemma closed_of_inside? {s source after : Text} (h : inside? ('{' :: s) = some (source, after)) :
    Closed source := by
  have hscan := (inside?_eq_some_iff.1 h).1
  rw [inside?_eq_some h] at hscan
  have halone : afterClosing? .initial (braced source) = some [] := afterClosing?_of_append hscan
  rw [Closed, endFrom?, Text.dropBytes, halone]
  rfl

/-- **A closed expression is read back** from its braces, whatever follows them. -/
theorem Closed.inside?_braced_append {source : Text} (h : Closed source) (rest : Text) :
    inside? (braced source ++ rest) = some (source, rest) :=
  inside?_eq_some_iff.2
    ⟨afterClosing?_append rest h.afterClosing?_braced, braced source, rfl, by simp [braced]⟩

end OneFile.Markup.Brace
