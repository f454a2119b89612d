import OneFile.Script.Statement
import OneFile.Style.Scope

/-!
# Readers of scripts and styles

A component holds texts in two other languages. How these are read is no matter of the component:
the readers are a parameter of everything that compiles one. What they make of a text, and what
they say about one that they cannot read, goes into the output and into errors as it is.

## Main definitions

* `OneFile.Readers` — what reads scripts and style sheets.
* `OneFile.Readers.own` — the readers of this library.
* `OneFile.Readers.statements` — the statements of a script, blank or not.
-/

namespace OneFile

/-- What reads the scripts and style sheets of components. A text that cannot be read gives a
diagnostic. -/
structure Readers where
  /-- The statements at the top level of a script, at their places in it. -/
  script (code : Text) : Except Text (List Script.Statement)
  /-- A style sheet for the elements of the component with an id. -/
  style (id css : Text) : Except Text Text

namespace Readers

/-- The readers of this library. They do not say what is wrong with a text: the one message that
each of them has stands for all the diagnostics that a parser might give. -/
def own : Readers where
  script code :=
    match Script.statements? code with
    | none => .error "statements cannot be read".toList
    | some statements => .ok statements
  style id css :=
    match Style.scope? id css with
    | none => .error "rules cannot be read".toList
    | some css => .ok css

/-- The statements of a script. A blank one has none, and is not handed to the reader. -/
def statements (readers : Readers) (code : Text) : Except Text (List Script.Statement) :=
  if code.blank then .ok [] else readers.script code

end Readers

end OneFile
