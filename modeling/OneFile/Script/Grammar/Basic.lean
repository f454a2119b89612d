import OneFile.Script.Lexer

/-!
# Grammar rules

A grammar rule reads some tokens and either says what they make up, or fails. Rules are functions
of the place that they start at, so a rule can be tried and, when it fails, another one read at
the same place. Some violations do not stop reading; they are noted, and make the script invalid
in the end unless the rule that noted them is given up.

Grammars are recursive. A rule refers to the nonterminals it is made of by a `Goal`, and what
reads a goal is a parameter of every rule. The parameter is filled in once for all
(`OneFile.Script.read`), by recursion on a bound for the depth of nesting.

All reading is made up of a few steps from token to token. That a rule takes such steps only, and
none backwards, is part of what a rule is.

## Main definitions

* `OneFile.Script.Shape` — what an expression is, as far as the grammar around it asks.
* `OneFile.Script.Goal` — the nonterminals that rules refer to.
* `OneFile.Script.Setting` — what is allowed around a place.
* `OneFile.Script.State` — a place among the tokens.
* `OneFile.Script.State.Step`, `OneFile.Script.State.Leads` — what one step of reading leads to,
  and what any number of them does.
* `OneFile.Script.Rule` — a grammar rule.
-/

namespace OneFile.Script

/-! ### What rules return -/

/-- What an expression, statement or part of one is, as far as the grammar around it asks. -/
inductive Shape where
  /-- Nothing that anyone asks about. -/
  | other
  /-- A name on its own. -/
  | name
  | string
  /-- A property of a value, not read through an optional chain. -/
  | property
  | parenthesized (inner : Shape)
  /-- A type assertion of any kind. -/
  | asserted (inner : Shape)
  /-- Type arguments without a call. -/
  | instantiated (inner : Shape)
  /-- A prefix operator with its operand. -/
  | prefixed
  /-- An `and` or `or`. -/
  | logical
  | coalescing
  /-- A dynamic import. -/
  | importCall
  /-- An assignment; `plain` when its operator is a lone equals sign. -/
  | assignment (plain : Bool)
  | array (items : List Shape) (trailingComma : Bool)
  | object (members : List Shape) (trailingComma : Bool)
  /-- A missing item of an array. -/
  | hole
  | spread (inner : Shape)
  /-- A member of an object that is a name, with a default if it starts at `defaulted`. -/
  | shorthand (defaulted : Option Nat)
  /-- A member of an object with a name and a value. -/
  | member (value : Shape)
  /-- A statement that imports from another module. -/
  | importDeclaration
deriving Repr

/-- What a rule refers to. -/
inductive Goal where
  /-- A statement; `alone` when it is the body of another one, and not in a list. -/
  | statement (alone : Bool)
  | expression
  /-- An expression without commas. `arrowType` tells whether an arrow function in it may have a
  return type that is not followed by a colon. -/
  | assignment (arrowType : Bool)
  /-- An expression of binary operators that bind more tightly than `above`. -/
  | binary (above : Nat)
  | unary
  /-- An expression that can stand before an assignment operator. -/
  | leftHand
  | primary
  /-- The target of a declaration. -/
  | binding
  | type
  | typeOperand
  /-- An embedded tag; `inner` when it lies within another one. -/
  | tag (inner : Bool)
deriving Repr

/-- What is allowed around a place. -/
structure Setting where
  /-- A bound for the number of rounds of every loop. -/
  limit : Nat
  /-- Whether `in` is an operator. -/
  allowIn : Bool := true
  inAsync : Bool := false
  inGenerator : Bool := false
  /-- Whether there is a function to return from. -/
  inFunction : Bool := false
  /-- Whether declarations need no definitions. -/
  ambient : Bool := false
  /-- Whether types may be conditional. -/
  conditionalTypes : Bool := true
  /-- Within a decorator, where brackets do not select a property. -/
  inDecorator : Bool := false

/-- A place among the tokens. -/
structure State where
  /-- The token that is next to be read. -/
  current : Lexeme
  /-- The place after it. -/
  after : Cursor
  /-- Where the token before it ends. -/
  lastStop : Nat
  /-- Whether a violation has been noted. -/
  flawed : Bool
  /-- The defaults of object members that are invalid unless the object turns out to be a
  pattern. -/
  defaults : List Nat

/-- The ways to take the present token for another one. -/
inductive Retake where
  /-- A word as the start of a name with hyphens. -/
  | tagWord
  /-- A shift operator as two angle brackets. -/
  | openAngle
  /-- A greater sign as the longest operator that it starts. -/
  | greater
  /-- A slash as the start of a regular expression. -/
  | regex
  /-- A closing brace as the start of a further stretch of a template string. -/
  | template
deriving DecidableEq, Repr

namespace State

/-- The place at the next token, which belongs to the region. -/
def advance (region : Region) (st : State) : State :=
  let (current, after) := region.lex st.after
  { st with current, after, lastStop := st.current.span.stop }

/-- The place with the present token taken for another one, if it can be. -/
def retake (r : Retake) (st : State) : State :=
  let start := st.current.span.start
  let (current, after) := match r, st.current.token with
    | .tagWord, .word .. => lexTagName start st.current.afterLineEnd st.current.name st.after
    | .openAngle, .punct .shiftLeft =>
      lexeme start st.current.afterLineEnd (.punct .less)
        ⟨'<' :: st.after.rest, st.after.offset - 1⟩
    | .greater, .punct .greater => lexGreater start st.current.afterLineEnd st.after
    | .regex, .punct .slash => lexRegex start st.current.afterLineEnd st.after
    | .regex, .punct .slashEq =>
      lexRegex start st.current.afterLineEnd ⟨'=' :: st.after.rest, st.after.offset - 1⟩
    | .template, .punct .closeBrace => lexTemplate start st.after
    | _, _ => (st.current, st.after)
  { st with current, after }

/-- What one step of reading leads to: the next token, the present one taken for another one, or
the same place with other notes. -/
inductive Step (st : State) : State → Prop
  | advance (region : Region) : Step st (st.advance region)
  | retake (r : Retake) : Step st (st.retake r)
  | noted (flawed : Bool) (defaults : List Nat) : Step st { st with flawed, defaults }

/-- What any number of steps leads to. -/
inductive Leads (st : State) : State → Prop
  | refl : Leads st st
  | tail {st' st'' : State} : Leads st st' → Step st' st'' → Leads st st''

/-- What leads to a place leads to those that it leads to. -/
theorem Leads.trans {st st' st'' : State} (h : st.Leads st') (h' : st'.Leads st'') :
    st.Leads st'' := by
  induction h' with
  | refl => exact h
  | tail _ hstep ih => exact ih.tail hstep

/-- A step leads on. -/
theorem Step.leads {st st' : State} (h : st.Step st') : st.Leads st' := .tail .refl h

/-- The places that a place leads to. -/
abbrev Onward (st : State) : Type := { st' : State // st.Leads st' }

namespace Onward

/-- The place itself. -/
def here (st : State) : st.Onward := ⟨st, .refl⟩

/-- Going on from a place further on. -/
def andThen {st : State} (st' : st.Onward) (st'' : st'.1.Onward) : st.Onward :=
  ⟨st''.1, st'.2.trans st''.2⟩

end Onward

end State

/-- What reads the goals that rules refer to. -/
abbrev Engine := Goal → Setting → (st : State) → Option (Shape × st.Onward)

/-- A grammar rule. -/
def Rule (α : Type) : Type := Engine → Setting → (st : State) → Option (α × st.Onward)

namespace Rule

/-- Rules one after another: each starts at the place that the one before it came to. -/
instance : Monad Rule where
  pure a := fun _ _ st => some (a, .here st)
  bind r f := fun eng set st =>
    match r eng set st with
    | none => none
    | some (a, st') =>
      match f a eng set st'.1 with
      | none => none
      | some (b, st'') => some (b, st'.andThen st'')

variable {α β σ : Type}

/-- Nothing that this rule could read. -/
def fail : Rule α := fun _ _ _ => none

/-- Reads a goal. -/
def goal (g : Goal) : Rule Shape := fun eng set st => eng g set st

/-- Reads a goal whose shape does not matter. -/
def skip (g : Goal) : Rule Unit := do
  let _ ← goal g

/-- What is allowed here. -/
def setting : Rule Setting := fun _ set st => some (set, .here st)

/-- A rule with something else allowed. -/
def within (f : Setting → Setting) (r : Rule α) : Rule α := fun eng set st => r eng (f set) st

/-- The present place. -/
def here : Rule State := fun _ _ st => some (st, .here st)

/-- A step to another place. -/
def step (next : State → State) (h : ∀ st : State, st.Step (next st)) : Rule Unit :=
  fun _ _ st => some ((), ⟨next st, (h st).leads⟩)

/-- Notes a violation. -/
def note : Rule Unit := step (fun st => { st with flawed := true }) fun _ => .noted ..

/-- Changes what is noted of defaults. -/
def noteDefaults (f : List Nat → List Nat) : Rule Unit :=
  step (fun st => { st with defaults := f st.defaults }) fun _ => .noted ..

/-- Notes a violation if there is one. -/
def noteIf (violated : Bool) : Rule Unit := if violated then note else pure ()

/-- Reads by the rule if it succeeds, and nothing otherwise. -/
def attempt (r : Rule α) : Rule (Option α) := fun eng set st =>
  match r eng set st with
  | some (a, st') => some (some a, st')
  | none => some (none, .here st)

/-- Reads by the rule if it returns something, and nothing otherwise. -/
def unlessNone (r : Rule (Option α)) : Rule (Option α) := fun eng set st =>
  match r eng set st with
  | some (some a, st') => some (some a, st')
  | some (none, _) => some (none, .here st)
  | none => none

/-- What the rule returns, without reading anything. -/
def look (r : Rule α) : Rule (Option α) := fun eng set st =>
  match r eng set st with
  | some (a, _) => some (some a, .here st)
  | none => some (none, .here st)

/-- Whether the rule returns `true`, without reading anything. -/
def ahead (r : Rule Bool) : Rule Bool := return (← look r).getD false

/-- Repeats a step that either goes on or ends, at most `limit` times, from a place that was come
to before. -/
def repeatFrom {st : State} (step : σ → Rule (σ ⊕ α)) (eng : Engine) (set : Setting) :
    (limit : Nat) → σ → st.Onward → Option (α × st.Onward)
  | 0, _, _ => none
  | n + 1, a, st₁ =>
    match step a eng set st₁.1 with
    | none => none
    | some (.inl a', st₂) => repeatFrom step eng set n a' (st₁.andThen st₂)
    | some (.inr b, st₂) => some (b, st₁.andThen st₂)

/-- Repeats a step that either goes on or ends, at most `limit` times. -/
def repeatWithin (step : σ → Rule (σ ⊕ α)) (limit : Nat) (start : σ) : Rule α :=
  fun eng set st => repeatFrom step eng set limit start (.here st)

/-- Repeats a step until it ends. Steps that go on read at least one token. -/
def loop (step : σ → Rule (σ ⊕ α)) (start : σ) : Rule α := do
  repeatWithin step (← setting).limit start

/-- Repeats a rule as long as it asks to. -/
def repeatWhile (step : Rule Bool) : Rule Unit :=
  loop (fun (_ : Unit) => do return if ← step then .inl () else .inr ()) ()

/-! ### Tokens -/

/-- The next token. -/
def token : Rule Token := return (← here).current.token

/-- Whether a line ends before the next token. -/
def afterLineEnd : Rule Bool := return (← here).current.afterLineEnd

/-- Where the next token starts. -/
def start : Rule Nat := return (← here).current.span.start

/-- Goes to the next token, which belongs to the region. -/
def advance (region : Region) : Rule Unit := step (State.advance region) fun _ => .advance region

/-- Takes the present token for another one, if it can be. -/
def retake (r : Retake) : Rule Unit := step (State.retake r) fun _ => .retake r

/-- Reads any token. A word with a meaning may not be written with escapes. -/
def bump : Rule Unit := do
  match ← token with
  | .word w true => noteIf (w != .plain)
  | _ => pure ()
  advance .code

/-- Reads a word as a name, whatever else it means. -/
def bumpName : Rule Unit := advance .code

/-- Whether the punctuator is next. -/
def atPunct (p : Punct) : Rule Bool := return (← token) == .punct p

/-- Whether the next token is the word, escaped or not. -/
def atWord (w : Word) : Rule Bool := do
  match ← token with
  | .word w' _ => return w == w'
  | _ => return false

/-- Reads the punctuator if it is next. -/
def eat (p : Punct) : Rule Bool := do
  if ← atPunct p then
    advance .code
    return true
  else return false

/-- Reads the word if it is next. -/
def eatWord (w : Word) : Rule Bool := do
  if ← atWord w then
    bump
    return true
  else return false

/-- Reads by the first rule, or by the second one if the first one says that there was nothing to
read. -/
def either (r r' : Rule Bool) : Rule Bool := do
  if ← r then return true else r'

/-- Reads the punctuator, which must be next. -/
def expect (p : Punct) : Rule Unit := do
  if !(← eat p) then fail

/-- Reads the word, which must be next. -/
def expectWord (w : Word) : Rule Unit := do
  if !(← eatWord w) then fail

/-- The word that is next, if there is one. -/
def word? : Rule (Option Word) := do
  match ← token with
  | .word w _ => return some w
  | _ => return none

/-- Whether a word that can name a declaration is next. -/
def atBinding : Rule Bool := return (← word?).any Word.isBinding

/-- Whether any word is next. -/
def atAnyWord : Rule Bool := return (← word?).isSome

/-- Whether the rule would be next after one more token. -/
def afterNext (r : Rule Bool) : Rule Bool :=
  ahead do
    bump
    r

/-- Whether a statement may end here without a semicolon. -/
def canEnd : Rule Bool := do
  match ← token with
  | .punct .semicolon | .punct .closeBrace | .endOfInput => return true
  | _ => afterLineEnd

/-- The end of a statement: a semicolon, or a place that needs none. -/
def endStatement : Rule Unit := do
  if !(← eat .semicolon) then
    if !(← canEnd) then fail

/-! ### Lists -/

/-- Whether a list ends here: at its closing punctuator or at the end of what can be read. -/
def atListEnd (close : Punct) : Rule Bool := do
  match ← token with
  | .endOfInput | .bad => return true
  | t => return t == .punct close

/-- Items with commas between them, up to but not with `close`; and whether a comma comes last. -/
def commaList (close : Punct) (item : Rule α) : Rule (List α × Bool) := do
  if ← atListEnd close then return ([], false)
  let first ← item
  loop (fun (read : List α) => do
    if ← atListEnd close then return .inr (read.reverse, false)
    expect .comma
    if ← atPunct close then return .inr (read.reverse, true)
    return .inl ((← item) :: read)) [first]

/-- Items one after the other up to `close`, which is read too. -/
def blockOf (close : Punct) (item : Rule Unit) : Rule Unit := do
  repeatWhile do
    if ← atListEnd close then return false
    item
    return true
  expect close

end Rule

end OneFile.Script
