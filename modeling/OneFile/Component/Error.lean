import OneFile.Span
import OneFile.Text.Location
import OneFile.Markup.Error

/-!
# Compile errors

The three ways in which a component is rejected. Each one ends the compilation it arises in.

## Main definitions

* `OneFile.CompileError`
* `OneFile.CompileError.code` — a stable name for the kind of error.
* `OneFile.CompileError.headline`, `OneFile.CompileError.describe` — its wording.
* `OneFile.CompileError.locate` — its line and column in a source.
-/

namespace OneFile

/-- Why a component is rejected. -/
inductive CompileError where
  /-- Markup that cannot be read, from this byte on. -/
  | markup (offset : Nat) (message : Text)
  /-- A script block that cannot be read. -/
  | script (range : Span) (message : Text)
  /-- A style block that cannot be read. -/
  | style (range : Span) (message : Text)
deriving DecidableEq, Repr

namespace CompileError

/-- A markup error as a compile error. -/
def ofMarkup (e : Markup.Error) : CompileError := .markup e.offset e.fault.message

/-- The stable name of the kind of error. -/
def code : CompileError → Text
  | .markup .. => "SFC-ERR-MARKUP".toList
  | .script .. => "SFC-ERR-SCRIPT".toList
  | .style .. => "SFC-ERR-STYLE".toList

/-- The byte offset that the error is reported at. -/
def offset : CompileError → Nat
  | .markup offset _ => offset
  | .script range _ | .style range _ => range.start

/-- What went wrong on its own, without the place. -/
def message : CompileError → Text
  | .markup _ message | .script _ message | .style _ message => message

/-- The kind of error and its place, up to a colon. -/
def headline : CompileError → Text
  | .markup offset _ => "Markup syntax error at byte ".toList ++ Text.ofNat offset ++ [':']
  | .script range _ => "Script syntax error in block ".toList ++ ofRange range ++ [':']
  | .style range _ => "Style syntax error in block ".toList ++ ofRange range ++ [':']
where
  /-- The two ends of a block. -/
  ofRange (range : Span) : Text := Text.ofNat range.start ++ "..".toList ++ Text.ofNat range.stop

/-- The whole wording. -/
def describe (e : CompileError) : Text := e.headline ++ ' ' :: e.message

/-- The line and column in `source` that the error is reported at. -/
def locate (e : CompileError) (source : Text) : Text.Location := source.locate e.offset

end CompileError

end OneFile
