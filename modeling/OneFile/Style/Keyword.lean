import OneFile.Text.Basic

/-!
# Keywords

Names that a grammar gives a meaning to can be written in any case.

## Main definitions

* `OneFile.Style.Keyword.isAmong` — whether a name is one of some keywords.
* `OneFile.Style.Keyword.fold?` — a keyword in lower case.
* `OneFile.Style.Keyword.universal` — the keywords that are values of any property.
-/

namespace OneFile.Style.Keyword

/-- Whether `name` is one of the keywords, in any case. -/
def isAmong (names : List String) (name : Text) : Bool :=
  (names.map String.toList).contains (Text.lower name)

/-- A name in lower case, if it is one of the keywords. -/
def fold? (names : List String) (name : Text) : Option Text :=
  if isAmong names name then some (Text.lower name) else none

/-- The keywords that are values of any property. -/
def universal : List String := ["initial", "inherit", "unset", "default", "revert", "revert-layer"]

end OneFile.Style.Keyword
