import OneFile.Style.Lexer

/-!
# Trees of style sheets

Brackets are matched before anything else is read. A closing bracket that closes nothing is left
as a token, and the end of the style sheet closes all brackets.

## Main definitions

* `OneFile.Style.Node.ofText` — the trees of a style sheet.
-/

namespace OneFile.Style

namespace Tree

/-! ### Building -/

/-- A bracket that is not closed yet, with what came before it in reverse. -/
structure Unclosed where
  opening : Opening
  raw : Text
  before : List Node

/-- The trees built so far, in reverse, within the brackets that are not closed yet. -/
structure Building where
  unclosed : List Unclosed
  current : List Node

/-- Closes the innermost bracket. -/
def Building.close (u : Unclosed) (rest : List Unclosed) (current : List Node) (closer : Text) :
    Building :=
  ⟨rest, .block u.opening u.raw current.reverse closer :: u.before⟩

/-- Adds a token. -/
def Building.push (b : Building) (token : Token) (raw : Text) : Building :=
  match token with
  | .opening o => ⟨⟨o, raw, b.current⟩ :: b.unclosed, []⟩
  | .closing c =>
    match b.unclosed with
    | u :: rest =>
      if c = u.opening.closer then .close u rest b.current raw
      else ⟨b.unclosed, .leaf token raw :: b.current⟩
    | [] => ⟨[], .leaf token raw :: b.current⟩
  | _ => ⟨b.unclosed, .leaf token raw :: b.current⟩

/-- Closes all brackets. -/
def finish : List Unclosed → List Node → List Node
  | [], current => current.reverse
  | u :: rest, current => finish rest (.block u.opening u.raw current.reverse [] :: u.before)

end Tree

/-- The trees of tokens. -/
def Node.ofTokens (ts : List (Token × Text)) : List Node :=
  let b := ts.foldl (fun b (token, raw) => b.push token raw) (⟨[], []⟩ : Tree.Building)
  Tree.finish b.unclosed b.current

/-- The trees of a style sheet. -/
def Node.ofText (s : Text) : List Node := ofTokens (lexAll s)

end OneFile.Style
