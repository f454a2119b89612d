import OneFile.Text.Basic

/-!
# Blank characters

The characters with the Unicode property `White_Space`, and trimming by them.

## Main definitions

* `OneFile.Text.isBlank` — the property, as ranges.
* `OneFile.Text.blank` — a text of blank characters only.
* `OneFile.Text.trimStart`, `OneFile.Text.trimEnd`, `OneFile.Text.trim`.
-/

namespace OneFile.Text

/-- The characters with the property `White_Space`. -/
def isBlank (c : Char) : Bool :=
  let n := c.toNat
  (9 ≤ n && n ≤ 13) || n == 0x20 || n == 0x85 || n == 0xA0 || n == 0x1680
    || (0x2000 ≤ n && n ≤ 0x200A) || n == 0x2028 || n == 0x2029 || n == 0x202F || n == 0x205F
    || n == 0x3000

/-- The blanks of ASCII that separate things inside a tag: space, tab, line feed, form feed and
carriage return. -/
def isSpace (c : Char) : Bool :=
  c == ' ' || c == '\t' || c == '\n' || c == '\x0c' || c == '\r'

/-- Nothing but blank characters. -/
def blank (s : Text) : Bool := s.all isBlank

/-- The text from its first character that is not blank. -/
def trimStart (s : Text) : Text := s.dropWhile isBlank

/-- The text up to its last character that is not blank. -/
def trimEnd (s : Text) : Text := (s.reverse.dropWhile isBlank).reverse

/-- The text without blank characters at either end. -/
def trim (s : Text) : Text := trimEnd (trimStart s)

end OneFile.Text
