import OneFile.Json.Value
import OneFile.Span

/-!
# Spans in JSON

## Main definitions

* `OneFile.Span.toJson`, `OneFile.Span.ofJson?`
-/

namespace OneFile.Span

/-- A span as a record of its two ends. -/
def toJson (span : Span) : Json :=
  .ofMembers [("start", .nat span.start), ("end", .nat span.stop)]

/-- Reads a span. -/
def ofJson? (j : Json) : Option Span := do
  match ← j.fields? ["start", "end"] with
  | [start, stop] => return ⟨← Json.required Json.nat? start, ← Json.required Json.nat? stop⟩
  | _ => none

end OneFile.Span
