import OneFile.Text.Blank

/-!
# Cursors

A place in a source: what is left to read, and how many bytes came before it.

## Main definitions

* `OneFile.Cursor`
* `OneFile.Cursor.skipWhile`, `OneFile.Cursor.skipSpaces`
-/

namespace OneFile

/-- What is left to read, and the byte offset where it starts. -/
structure Cursor where
  rest : Text
  offset : Nat
deriving DecidableEq, Repr, Inhabited

namespace Cursor

/-- The cursor after `consumed`, with `rest` left. -/
def advance (c : Cursor) (consumed rest : Text) : Cursor := ⟨rest, c.offset + consumed.size⟩

/-- The cursor at the next character that does not satisfy `p`. -/
def skipWhile (p : Char → Bool) (c : Cursor) : Cursor :=
  c.advance (c.rest.takeWhile p) (c.rest.dropWhile p)

/-- The cursor at the next character that does not separate. -/
def skipSpaces (c : Cursor) : Cursor := c.skipWhile Text.isSpace

/-- What is before a cursor that has advanced. -/
@[simp] theorem rest_advance (c : Cursor) (consumed rest : Text) :
    (c.advance consumed rest).rest = rest := rfl

/-- Skipping spaces leaves no more than there was. -/
theorem length_skipSpaces_le (c : Cursor) : c.skipSpaces.rest.length ≤ c.rest.length :=
  (List.dropWhile_sublist _).length_le

end Cursor

end OneFile
