import OneFile.Text.Basic

/-!
# Spans

A stretch of a source text, given by the byte offsets of its two ends.

## Main definitions

* `OneFile.Span`
* `OneFile.Span.slice` — the stretch of a source that a span names.
-/

namespace OneFile

/-- The bytes from `start` up to, and not including, `stop`. -/
structure Span where
  start : Nat := 0
  stop : Nat := 0
deriving DecidableEq, Repr, Inhabited

namespace Span

/-- The stretch of `source` that the span names. -/
def slice (source : Text) (span : Span) : Text :=
  (source.dropBytes span.start).takeBytes (span.stop - span.start)

/-- The span moved by `n` bytes to the right. -/
def shift (n : Nat) (span : Span) : Span := ⟨n + span.start, n + span.stop⟩

end Span

end OneFile
