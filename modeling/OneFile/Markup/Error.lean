import OneFile.Text.Basic

/-!
# Markup errors

What can be wrong with markup, where, and how it is worded.

## Main definitions

* `OneFile.Markup.Fault` — a cause.
* `OneFile.Markup.Fault.message` — its wording.
* `OneFile.Markup.Error` — a cause with the byte offset that it is reported at.
-/

namespace OneFile.Markup

/-- A cause for rejecting markup. -/
inductive Fault where
  | unclosedElement (name : Text)
  | malformedClosingTag (name : Text)
  | mismatchedClosingTag (expected found : Text)
  | unexpectedClosingTag (name : Text)
  | unterminatedComment
  | unterminatedExpression
  | unterminatedTag (name : Text)
  /-- A character in an opening tag that no attribute can start with. -/
  | unexpectedCharacter (tag : Text)
  /-- A quoted attribute value without its closing quote. -/
  | unterminatedValue (name : Text)
  /-- A source that ends after the equals sign of an attribute. -/
  | missingValue (name : Text)
deriving DecidableEq, Repr

/-- The wording of a cause. -/
def Fault.message : Fault → Text
  | .unclosedElement name => "Unclosed element <".toList ++ name ++ ">".toList
  | .malformedClosingTag name => "Malformed closing tag </".toList ++ name
  | .mismatchedClosingTag expected found =>
    "Expected </".toList ++ expected ++ "> but found </".toList ++ found ++ ">".toList
  | .unexpectedClosingTag name => "Unexpected closing tag </".toList ++ name ++ ">".toList
  | .unterminatedComment => "Unterminated comment".toList
  | .unterminatedExpression => "Unterminated expression".toList
  | .unterminatedTag name => "Unterminated tag <".toList ++ name
  | .unexpectedCharacter tag => "Unexpected character in <".toList ++ tag ++ "> tag".toList
  | .unterminatedValue name => "Unterminated value for `".toList ++ name ++ ['`']
  | .missingValue name => "Missing value for `".toList ++ name ++ ['`']

/-- A cause, and the byte offset it is reported at. -/
structure Error where
  offset : Nat
  fault : Fault
deriving DecidableEq, Repr

end OneFile.Markup
