import OneFile.Text.Basic

/-!
# Balanced braces

An expression in braces ends at the brace that balances its first one. Braces inside quoted
strings, inside the literal part of template strings and inside comments do not count, and a
template string may hold expressions of its own after a dollar sign.

The scan is an automaton with a stack. It looks at one character at a time; where two characters
decide together (the two that open a comment, the two that end one, a dollar sign and its brace)
the first of them is a mode of its own.

## Main definitions

* `OneFile.Markup.Brace.State` — what the scan knows: its mode and what is still open.
* `OneFile.Markup.Brace.step` — one character.
* `OneFile.Markup.Brace.afterClosing?` — what follows the closing brace.
* `OneFile.Markup.Brace.balanced?` — a balanced stretch at the start of a text, and the rest.
* `OneFile.Markup.Brace.inside?` — the same without its two braces.
* `OneFile.Markup.Brace.endFrom?` — the byte offset after the closing brace.

## Main results

* `OneFile.Markup.Brace.length_lt_of_afterClosing?` — a successful scan consumes something.
* `OneFile.Markup.Brace.balanced?_eq_some` — the stretch and the rest make up the input.
-/

namespace OneFile.Markup.Brace

/-- What can be open around a place in an expression. -/
inductive Opening where
  | brace
  | template
deriving DecidableEq, Repr

/-- What kind of characters the scan is among. -/
inductive Mode where
  | code
  /-- After a slash in code. -/
  | slash
  /-- Within a string that ends at this quote. -/
  | quoted (quote : Char)
  /-- After a backslash in a string. -/
  | quotedEscape (quote : Char)
  | lineComment
  | blockComment
  /-- After an asterisk in a block comment. -/
  | blockStar
  /-- Within the literal part of a template string. -/
  | literal
  /-- After a backslash in a template string. -/
  | literalEscape
  /-- After a dollar sign in a template string. -/
  | literalDollar
deriving DecidableEq, Repr

/-- What the scan knows: its mode, and what is open, innermost first. -/
structure State where
  mode : Mode
  stack : List Opening
deriving DecidableEq, Repr

/-- The outcome of looking at one character. -/
inductive Step where
  | next (state : State)
  /-- The outermost brace is closed. -/
  | closed
  /-- A closing brace with nothing open. -/
  | stuck
deriving DecidableEq, Repr

/-- Back among what is innermost on the stack. -/
def resume (stack : List Opening) : Step :=
  match stack with
  | .template :: _ => .next ⟨.literal, stack⟩
  | _ => .next ⟨.code, stack⟩

/-- A closing brace in code. -/
def closeBrace : List Opening → Step
  | [] => .stuck
  | _ :: below => if below.contains .brace then resume below else .closed

/-- A character in code. -/
def stepCode (stack : List Opening) (c : Char) : Step :=
  if c = '"' ∨ c = '\'' then .next ⟨.quoted c, stack⟩
  else if c = '`' then .next ⟨.literal, .template :: stack⟩
  else if c = '/' then .next ⟨.slash, stack⟩
  else if c = '{' then .next ⟨.code, .brace :: stack⟩
  else if c = '}' then closeBrace stack
  else .next ⟨.code, stack⟩

/-- A character in the literal part of a template string. -/
def stepLiteral (stack : List Opening) (c : Char) : Step :=
  if c = '\\' then .next ⟨.literalEscape, stack⟩
  else if c = '`' then resume stack.tail
  else if c = '$' then .next ⟨.literalDollar, stack⟩
  else .next ⟨.literal, stack⟩

/-- One character of the scan. -/
def step (state : State) (c : Char) : Step :=
  let stack := state.stack
  match state.mode with
  | .code => stepCode stack c
  | .slash =>
    if c = '/' then .next ⟨.lineComment, stack⟩
    else if c = '*' then .next ⟨.blockComment, stack⟩
    else stepCode stack c
  | .quoted q =>
    if c = '\\' then .next ⟨.quotedEscape q, stack⟩
    else if c = q then .next ⟨.code, stack⟩
    else .next ⟨.quoted q, stack⟩
  | .quotedEscape q => .next ⟨.quoted q, stack⟩
  | .lineComment => .next ⟨if c = '\n' then .code else .lineComment, stack⟩
  | .blockComment => .next ⟨if c = '*' then .blockStar else .blockComment, stack⟩
  | .blockStar =>
    .next ⟨if c = '/' then .code else if c = '*' then .blockStar else .blockComment, stack⟩
  | .literal => stepLiteral stack c
  | .literalEscape => .next ⟨.literal, stack⟩
  | .literalDollar =>
    if c = '{' then .next ⟨.code, .brace :: stack⟩ else stepLiteral stack c

/-- The start of every scan. -/
def State.initial : State := ⟨.code, []⟩

/-- What follows the brace that closes the outermost open one, and `none` if there is none. -/
def afterClosing? (state : State) : Text → Option Text
  | [] => none
  | c :: s =>
    match step state c with
    | .next state' => afterClosing? state' s
    | .closed => some s
    | .stuck => none

/-- The stretch up to the brace that balances the first one, and what follows it. -/
def balanced? (s : Text) : Option (Text × Text) :=
  (afterClosing? .initial s).map fun after => (s.take (s.length - after.length), after)

/-- A braced expression at the start of the text, without its braces, and what follows it. -/
def inside? (s : Text) : Option (Text × Text) :=
  (balanced? s).map fun (whole, after) => (whole.tail.dropLast, after)

/-- The byte offset after the brace that balances the first one from `start` on. -/
def endFrom? (source : Text) (start : Nat) : Option Nat :=
  (afterClosing? .initial (source.dropBytes start)).map fun after => source.size - after.size

/-! ### What is consumed -/

/-- A successful scan leaves an end of its input and consumes something. -/
theorem afterClosing?_eq_some {state : State} {s after : Text}
    (h : afterClosing? state s = some after) : ∃ whole, whole ≠ [] ∧ s = whole ++ after := by
  induction s generalizing state with
  | nil => simp [afterClosing?] at h
  | cons c s ih =>
    simp only [afterClosing?] at h
    split at h
    · obtain ⟨whole, -, rfl⟩ := ih h
      exact ⟨c :: whole, by simp, rfl⟩
    · simp only [Option.some.injEq] at h
      exact ⟨[c], by simp, by simp [h]⟩
    · simp at h

/-- A closing brace is taken. -/
theorem length_lt_of_afterClosing? {state : State} {s after : Text}
    (h : afterClosing? state s = some after) : after.length < s.length := by
  obtain ⟨whole, hw, rfl⟩ := afterClosing?_eq_some h
  have := List.length_pos_iff.2 hw
  simp only [List.length_append]
  omega

/-- The stretch and the rest make up the input. -/
theorem balanced?_eq_some {s whole after : Text} (h : balanced? s = some (whole, after)) :
    s = whole ++ after := by
  obtain ⟨a, ha, he⟩ := Option.map_eq_some_iff.1 h
  simp only [Prod.mk.injEq] at he
  obtain ⟨rfl, rfl⟩ := he
  obtain ⟨whole, -, rfl⟩ := afterClosing?_eq_some ha
  simp

/-- So it is after what is inside. -/
theorem length_lt_of_inside? {s inner after : Text} (h : inside? s = some (inner, after)) :
    after.length < s.length := by
  obtain ⟨⟨w, a⟩, hb, he⟩ := Option.map_eq_some_iff.1 h
  obtain ⟨b, hc, hd⟩ := Option.map_eq_some_iff.1 hb
  simp only [Prod.mk.injEq] at he hd
  rw [← he.2, ← hd.2]
  exact length_lt_of_afterClosing? hc

end OneFile.Markup.Brace
