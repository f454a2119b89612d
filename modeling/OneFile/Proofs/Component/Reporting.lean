import OneFile.Component.Error
import OneFile.Proofs.Markup.Faults
import OneFile.Proofs.Text.Location

/-!
# Errors are reported where they are

An error names a byte offset, and a reader of the source is given a line and a column for it. Both
can be relied on: the offset of a markup error is the start of what is wrong, and the line and the
column of any error lead to its offset.

## Main definitions

* `OneFile.ReportsInPlace` — the offsets of markup errors, and the places of all errors.

## Main results

* `OneFile.errors_reportedInPlace` — every error is reported in place.
-/

namespace OneFile

open Markup

/-- **The errors of a source are reported in place.** -/
structure ReportsInPlace (source : Text) : Prop where
  /-- A markup error points at the start of the construct at fault, within the source and between
  two characters. The construct starts with the character that the cause settles. -/
  points : ∀ e, parse source = .error e →
    e.offset < source.size ∧ source.IsBoundary e.offset ∧ e.Points source ∧
      ∀ mark ∈ e.fault.mark?, CharAt source e.offset mark
  /-- The line and the column of an error lead to its offset, if that is between characters. -/
  finds : ∀ e : CompileError, source.IsBoundary e.offset →
    (e.locate source).Finds source e.offset
  /-- An offset within a character counts as the start of that character. -/
  within_char : ∀ (e e' : CompileError) (before after : Text) (c : Char),
    source = before ++ c :: after → e'.offset = before.size → before.size ≤ e.offset →
      e.offset < before.size + c.utf8Size → e.locate source = e'.locate source
  /-- An offset past the end counts as the end. -/
  past_end : ∀ e e' : CompileError, source.size ≤ e.offset → e'.offset = source.size →
    e.locate source = e'.locate source
  /-- Of two errors between characters, the later one has the later line, or the later column of
  the same line. -/
  ordered : ∀ e e' : CompileError, source.IsBoundary e.offset → source.IsBoundary e'.offset →
    e.offset < e'.offset → (e.locate source).key < (e'.locate source).key
  /-- So no two places between characters have the same line and column. -/
  injective : ∀ e e' : CompileError, source.IsBoundary e.offset → source.IsBoundary e'.offset →
    e.locate source = e'.locate source → e.offset = e'.offset

/-- **Every error is reported in place**, in any source.

**Proof sketch.** What stands at the offset of a markup error is known by its cause
(`Markup.points_of_parse`), and begins with a character of the source. The rest is about any offset
at all: `Text.Location.finds_iff`, the two lemmas on offsets that are no boundaries, and
`Text.strictMonoOn_key_locate`. -/
theorem errors_reportedInPlace (source : Text) : ReportsInPlace source := by
  have hmono := Text.strictMonoOn_key_locate source
  refine ⟨fun e he => ?_, fun e hboundary => ?_, ?_, ?_, fun e e' h h' hlt => ?_,
    fun e e' h h' heq => ?_⟩
  · have hpoints := points_of_parse he
    obtain ⟨d, hd, hmark⟩ := hpoints.starts
    exact ⟨hd.offset_lt, hd.isBoundary, hpoints, fun mark hm => hmark mark hm ▸ hd⟩
  · exact Text.Location.finds_iff.2 ⟨hboundary, rfl⟩
  · rintro e e' before after c rfl hstart hle hlt
    rw [CompileError.locate, CompileError.locate, hstart]
    exact Text.locate_of_within_char hle hlt
  · intro e e' hle hend
    rw [CompileError.locate, CompileError.locate, hend]
    exact Text.locate_of_size_le hle
  · exact hmono h h' hlt
  · exact hmono.injOn h h' (congrArg Text.Location.key heq)

/-- A quotation that is not closed, after a character of two bytes and a line break: the error is
that of the attribute, in the fourth column of the second line. -/
theorem errors_reportedInPlace_openQuote :
    parse "é\n<p a='b>".toList = .error ⟨6, .unterminatedValue "a".toList⟩ ∧
    Error.Points "é\n<p a='b>".toList ⟨6, .unterminatedValue "a".toList⟩ ∧
    Text.Location.Finds "é\n<p a='b>".toList ⟨2, 4⟩ 6 := by
  have hparse : parse "é\n<p a='b>".toList = .error ⟨6, .unterminatedValue "a".toList⟩ := by
    decide +kernel
  have hplace : Text.locate "é\n<p a='b>".toList 6 = ⟨2, 4⟩ := by decide +kernel
  obtain ⟨-, hboundary, hpoints, -⟩ := (errors_reportedInPlace _).points _ hparse
  have hfinds := (errors_reportedInPlace _).finds (.markup 6 []) hboundary
  exact ⟨hparse, hpoints, hplace ▸ hfinds⟩

end OneFile
