import OneFile.Text.Basic

/-!
# Lines and columns

A byte offset as a place that a reader can find: both numbers start at one, and columns count
characters.

## Main definitions

* `OneFile.Text.Location`
* `OneFile.Text.locate`
-/

namespace OneFile.Text

/-- A line and a column, both counted from one; columns are characters. -/
structure Location where
  line : Nat
  column : Nat
deriving DecidableEq, Repr

/-- The place after the given text, when it begins at `start`. -/
def Location.after (start : Location) : Text → Location
  | [] => start
  | c :: s =>
    if c = '\n' then Location.after ⟨start.line + 1, 1⟩ s
    else Location.after ⟨start.line, start.column + 1⟩ s

/-- The whole characters within the first `n` bytes. -/
def within : Nat → Text → Text
  | _, [] => []
  | n, c :: s => if c.utf8Size ≤ n then c :: within (n - c.utf8Size) s else []

/-- The place of a byte offset. An offset inside a character counts as that character's start, and
one past the end as the end. -/
def locate (s : Text) (offset : Nat) : Location := Location.after ⟨1, 1⟩ (within offset s)

end OneFile.Text
