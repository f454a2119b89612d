import OneFile.Style.Token

/-!
# Writing names and strings

Names and strings are written with escapes for the characters that would end them or could be
taken for something else.

## Main definitions

* `OneFile.Style.writeName` — characters of a name, from any of them on.
* `OneFile.Style.writeIdent` — a name that stands on its own.
* `OneFile.Style.writeString` — a quoted string.
-/

namespace OneFile.Style

/-- An escape by code point. A blank ends it. -/
def codeEscape (c : Char) : Text := '\\' :: (Nat.toDigits 16 c.toNat ++ [' '])

/-- The control characters, except the null character. -/
def isControl (c : Char) : Bool := (0 < c.toNat && c.toNat < 0x20) || c.toNat == 0x7F

/-- A character of a name. -/
def writeNameChar (c : Char) : Text :=
  if c.isAlphanum || c == '_' || c == '-' || 0x80 ≤ c.toNat then [c]
  else if c = '\x00' then ['\uFFFD']
  else if isControl c then codeEscape c
  else ['\\', c]

/-- Characters of a name. -/
def writeName (s : Text) : Text := s.flatMap writeNameChar

/-- A name that starts neither with a digit nor with two hyphens nor is a lone hyphen. -/
def writeNameStart : Text → Text
  | [] => []
  | c :: s => if c.isDigit then codeEscape c ++ writeName s else writeName (c :: s)

/-- A name that stands on its own. -/
def writeIdent : Text → Text
  | '-' :: '-' :: s => '-' :: '-' :: writeName s
  | ['-'] => ['\\', '-']
  | '-' :: s => '-' :: writeNameStart s
  | s => writeNameStart s

/-- A character of a string. -/
def writeStringChar (c : Char) : Text :=
  if c = '"' ∨ c = '\\' then ['\\', c]
  else if c = '\x00' then ['\uFFFD']
  else if isControl c then codeEscape c
  else [c]

/-- A quoted string. -/
def writeString (s : Text) : Text := '"' :: (s.flatMap writeStringChar ++ ['"'])

/-- A text in parentheses, if that is needed. -/
def parenthesize (needed : Bool) (s : Text) : Text := if needed then '(' :: (s ++ [')']) else s

end OneFile.Style
