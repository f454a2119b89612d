import OneFile.Component.Segment
import OneFile.Component.Error
import OneFile.Component.Readers

/-!
# Buckets

What goes into the output, by the place it goes to. Script statements keep the text they have in
the source: imports of all scripts come first, the other statements of module scripts stand at
the top level, and those of instance scripts inside the component function.

## Main definitions

* `OneFile.Piece` — a stretch of output text.
* `OneFile.Buckets`
* `OneFile.ScriptBlock.statements` — the statements of a script, at their places in the document.
* `OneFile.Buckets.Filling` — what fills buckets step by step.
* `OneFile.Buckets.putScript`, `OneFile.Buckets.addScripts`
-/

namespace OneFile

open Markup

/-- A stretch of output text, and where it stands in the source if it was taken from there. -/
structure Piece where
  text : Text
  range : Option Span
deriving DecidableEq, Repr

/-- A stretch of the source. -/
def Piece.verbatim (source : Text) (range : Span) : Piece := ⟨range.slice source, some range⟩

/-- A stretch that was made. -/
def Piece.made (text : Text) : Piece := ⟨text, none⟩

/-- Output pieces by the place they go to, each list in source order. -/
structure Buckets where
  imports : List Piece := []
  moduleBody : List Piece := []
  instanceBody : List Piece := []
  template : List Piece := []
  styles : List Piece := []
  shape : TemplateShape := .empty
deriving DecidableEq, Repr, Inhabited

/-- The statements of a script, at their places in the document. -/
def ScriptBlock.statements (source : Text) (block : ScriptBlock) (readers : Readers := .own) :
    Except CompileError (List Script.Statement) :=
  match block.element.contentSpan? with
  | none => .ok []
  | some content =>
    match readers.statements (content.slice source) with
    | .error message => .error (.script block.element.span message)
    | .ok statements => .ok (statements.map (·.shift content.start))

namespace Buckets

/-- One more statement of a module or instance script. -/
def addStatement (source : Text) (isModule : Bool) (b : Buckets) (s : Script.Statement) : Buckets :=
  let piece := Piece.verbatim source s.span
  if s.isImport then { b with imports := b.imports ++ [piece] }
  else if isModule then { b with moduleBody := b.moduleBody ++ [piece] }
  else { b with instanceBody := b.instanceBody ++ [piece] }

/-- Filling buckets: a failure keeps what was put into them before it. -/
abbrev Filling := ExceptT CompileError (StateM Buckets)

/-- The outcome of filling, and the buckets after it. -/
def Filling.fill (x : Filling Unit) (b : Buckets) : Except CompileError Unit × Buckets :=
  StateT.run (ExceptT.run x) b

/-- Puts one statement of a module or instance script into its bucket. -/
def putStatement (source : Text) (isModule : Bool) (s : Script.Statement) : Filling Unit :=
  modify (addStatement source isModule · s)

/-- Reads a script and puts its statements into their buckets. -/
def putScript (source : Text) (block : ScriptBlock) (readers : Readers := .own) :
    Filling Unit := do
  let statements ← MonadExcept.ofExcept (block.statements source readers)
  statements.forM (putStatement source block.isModule)

/-- The buckets with the statements of more scripts, in order; the first script that cannot be
read ends it. -/
def addScripts (source : Text) (blocks : List ScriptBlock) (b : Buckets)
    (readers : Readers := .own) : Except CompileError Buckets :=
  match Filling.fill (blocks.forM fun block => putScript source block readers) b with
  | (.ok (), b') => .ok b'
  | (.error e, _) => .error e

end Buckets

end OneFile
