import OneFile.Script.Grammar

/-!
# Statements

The top-level statements of a script. Only where they start and end, and which of them are import
declarations, is kept of what was read.

## Main definitions

* `OneFile.Script.Statement`
* `OneFile.Script.statements?` — the statements of a script, if all of it is valid.
-/

namespace OneFile.Script

/-- A top-level statement of a script. -/
structure Statement where
  /-- Whether it is an import declaration. -/
  isImport : Bool
  span : Span
deriving DecidableEq, Repr

/-- The statement moved by `n` bytes to the right. -/
def Statement.shift (n : Nat) (s : Statement) : Statement := { s with span := s.span.shift n }

/-- What is allowed at the top level of a module whose loops take at most `limit` rounds. -/
def Setting.ofModule (limit : Nat) : Setting := { limit, inAsync := true }

/-- The first line of a script may name the program that runs it. -/
def skipRunnerLine (c : Cursor) : Cursor :=
  match c.rest with
  | '#' :: '!' :: _ => c.skipWhile fun d => !endsLine d
  | _ => c

/-- The place before the first token of a script. -/
def State.ofText (source : Text) : State :=
  let c := skipRunnerLine ⟨source, 0⟩
  let (current, after) := lex c
  { current, after, lastStop := c.offset, flawed := false, defaults := [] }

namespace Rule

/-- A statement at the top level. -/
def topStatement : Rule (Shape × Statement) := do
  let start ← start
  let shape ← goal (.statement false)
  let stop := (← here).lastStop
  return (shape, ⟨shape matches .importDeclaration, ⟨start, stop⟩⟩)

/-- The statements up to the end of the script. Strings that stand alone before the first other
statement are directives, which are no statements. -/
def topStatements : Rule (List Statement) :=
  loop (fun (read : List Statement) => do
    if (← token) == .endOfInput then return .inr read.reverse
    let mayDirect := read.isEmpty && (← token) == .string
    let (shape, statement) ← topStatement
    if mayDirect && (shape matches .string) then return .inl read
    return .inl (statement :: read)) []

end Rule

/-- How deep goals can lie within each other in a text of the given length: no more than eight of
them start at one character. -/
def depthFor (length : Nat) : Nat := 8 * length + 64

/-- The statements of a script, if all of it is valid. -/
def statements? (source : Text) : Option (List Statement) :=
  let n := source.length
  match Rule.topStatements (read (depthFor n)) (.ofModule (n + 2)) (.ofText source) with
  | some (statements, st) =>
    if st.1.flawed || !st.1.defaults.isEmpty then none else some statements
  | none => none

end OneFile.Script
