import OneFile.Text.Blank

/-!
# Indentation

Two rules on the lines of a text. `indent` puts the same number of spaces before every line and
drops blank lines; `dedent` takes the common leading blanks away again and trims line ends.
Leading blanks are measured in bytes, so a line whose own blanks are wider than one byte may keep
a little more than its share: the cut is lowered to the nearest character boundary.

## Main definitions

* `OneFile.Text.indent`
* `OneFile.Text.commonMargin` — the smallest leading blank stretch of the lines with content.
* `OneFile.Text.dropMargin` — one line without its margin.
* `OneFile.Text.dedent`
-/

namespace OneFile.Text

/-- Every line with content, after `n` spaces; blank lines are dropped. -/
def indent (n : Nat) (s : Text) : Text :=
  unlines ((s.lines.filter fun l => !l.blank).map fun l => List.replicate n ' ' ++ l)

/-- The bytes of leading blanks. -/
def margin (line : Text) : Nat := size (line.takeWhile isBlank)

/-- The smallest margin of the lines that have content, and zero when none has. -/
def commonMargin (ls : List Text) : Nat :=
  (((ls.filter fun l => !l.blank).map margin).min?).getD 0

/-- The line without the leading characters that lie within the first `cut` bytes; a character
that straddles the cut stays. -/
def dropWithin : Nat → Text → Text
  | _, [] => []
  | cut, c :: s => if c.utf8Size ≤ cut then dropWithin (cut - c.utf8Size) s else c :: s

/-- A line without its share of the common margin and without trailing blanks. -/
def dropMargin (common : Nat) (line : Text) : Text :=
  trimEnd (dropWithin (min common (margin line)) line)

/-- The lines without their common margin and without trailing blanks. -/
def dedent (s : Text) : Text :=
  unlines (s.lines.map (dropMargin (commonMargin s.lines)))

end OneFile.Text
