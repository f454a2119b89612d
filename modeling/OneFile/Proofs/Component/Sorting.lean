import Mathlib.Tactic.Common
import OneFile.Component.Buckets

/-!
# Sorting statements into buckets

The statements of all scripts of a component, one after the other, and the buckets they end up in.

## Main definitions

* `OneFile.TopStatement` — a statement of a script, and what kind of script it belongs to.
* `OneFile.topStatements` — the statements of scripts, in order.
* `OneFile.TopStatement.place` — the one bucket that a statement belongs into.

## Main results

* `OneFile.Buckets.fill_putScript_error` — a rejected script leaves the buckets as they were.
* `OneFile.Buckets.addScripts_eq` — scripts fill buckets statement by statement.
* `OneFile.Buckets.pieces_foldl_addTop` — each bucket gets its statements, in order.
* `OneFile.Buckets.perm_filter_place` — every statement belongs into one bucket.
-/

namespace OneFile

open Markup

/-! ### Statements of all scripts -/

/-- A statement of a top-level script, at its place in the document. -/
structure TopStatement extends Script.Statement where
  /-- Whether its script is shared by all uses of the component. -/
  inModule : Bool
deriving DecidableEq, Repr

/-- The statements of a script, at their places in the document and with its kind. -/
def ScriptBlock.topStatements (source : Text) (block : ScriptBlock) (readers : Readers := .own) :
    Except CompileError (List TopStatement) :=
  match block.statements source readers with
  | .error e => .error e
  | .ok statements => .ok (statements.map (⟨·, block.isModule⟩))

/-- The statements of scripts: script by script, each in its own order. -/
def topStatements (source : Text) (blocks : List ScriptBlock) (readers : Readers := .own) :
    Except CompileError (List TopStatement) :=
  match blocks with
  | [] => .ok []
  | block :: blocks =>
    match block.topStatements source readers with
    | .error e => .error e
    | .ok statements =>
      match topStatements source blocks readers with
      | .error e => .error e
      | .ok rest => .ok (statements ++ rest)

/-- The buckets for statements. -/
inductive Place where
  | imports
  | moduleBody
  | instanceBody
deriving DecidableEq, Repr

namespace TopStatement

/-- The one bucket that a statement belongs into: that of imports, whatever its script is, or that
of its script. -/
def place (s : TopStatement) : Place :=
  if s.isImport then .imports else if s.inModule then .moduleBody else .instanceBody

/-- The statement as it stands in the source. -/
def piece (source : Text) (s : TopStatement) : Piece := .verbatim source s.span

end TopStatement

namespace Buckets

/-- What is in a bucket for statements. -/
def pieces (b : Buckets) : Place → List Piece
  | .imports => b.imports
  | .moduleBody => b.moduleBody
  | .instanceBody => b.instanceBody

/-- The buckets with one more statement. -/
def addTop (source : Text) (b : Buckets) (s : TopStatement) : Buckets :=
  addStatement source s.inModule b s.toStatement

variable {readers : Readers} {source : Text}

/-! ### What filling does -/

/-- Putting statements never fails, and adds them one by one. -/
lemma fill_forM_putStatement (isModule : Bool) (statements : List Script.Statement) (b : Buckets) :
    Filling.fill (statements.forM (putStatement source isModule)) b =
      (.ok (), statements.foldl (addStatement source isModule) b) := by
  induction statements generalizing b with
  | nil => rfl
  | cons s statements ih => exact ih (addStatement source isModule b s)

/-- A script that can be read is put statement by statement. -/
lemma fill_putScript_ok {block : ScriptBlock} {statements : List Script.Statement}
    (h : block.statements source readers = .ok statements) (b : Buckets) :
    Filling.fill (putScript source block readers) b =
      (.ok (), statements.foldl (addStatement source block.isModule) b) := by
  rw [← fill_forM_putStatement, putScript, h]
  rfl

/-- **A rejected script leaves the buckets as they were.** -/
lemma fill_putScript_error {block : ScriptBlock} {e : CompileError} {b b' : Buckets}
    (h : Filling.fill (putScript source block readers) b = (.error e, b')) : b' = b := by
  cases hread : block.statements source readers with
  | error e' =>
    rw [putScript, hread] at h
    exact (congrArg Prod.snd h).symm
  | ok statements =>
    rw [fill_putScript_ok hread] at h
    simp at h

/-- Filling goes on from the buckets that were left, unless it failed. -/
lemma fill_bind (x y : Filling Unit) (b : Buckets) :
    Filling.fill (x >>= fun _ => y) b =
      match Filling.fill x b with
      | (.ok (), b') => Filling.fill y b'
      | (.error e, b') => (.error e, b') := by
  unfold Filling.fill
  rw [ExceptT.run_bind, StateT.run_bind]
  rcases StateT.run x.run b with ⟨_ | _, b'⟩
  · rfl
  · rfl

/-- The statements of a script, put one by one. -/
lemma foldl_topStatements {block : ScriptBlock} (statements : List Script.Statement)
    (b : Buckets) :
    (statements.map (⟨·, block.isModule⟩)).foldl (addTop source) b =
      statements.foldl (addStatement source block.isModule) b := by
  rw [List.foldl_map]
  rfl

/-- **Scripts fill buckets statement by statement**, in the order of all their statements, and
fail where the first of them cannot be read.

**Proof sketch.** Induction on the scripts, with any buckets to start from. -/
theorem addScripts_eq (readers : Readers) (source : Text) (blocks : List ScriptBlock)
    (b : Buckets) :
    addScripts source blocks b readers =
      match topStatements source blocks readers with
      | .error e => .error e
      | .ok statements => .ok (statements.foldl (addTop source) b) := by
  induction blocks generalizing b with
  | nil => rfl
  | cons block blocks ih =>
    have hcons : (block :: blocks).forM (fun block => putScript source block readers) =
        putScript source block readers >>= fun _ =>
          blocks.forM fun block => putScript source block readers := rfl
    rw [addScripts, hcons, fill_bind, topStatements, ScriptBlock.topStatements]
    cases hread : block.statements source readers with
    | error e =>
      rw [putScript, hread]
      rfl
    | ok statements =>
      have hrest := ih (statements.foldl (addStatement source block.isModule) b)
      rw [addScripts] at hrest
      rw [fill_putScript_ok hread]
      dsimp only
      rw [hrest]
      cases topStatements source blocks readers with
      | error e => rfl
      | ok rest =>
        dsimp only
        rw [List.foldl_append, foldl_topStatements]

/-! ### What the buckets hold -/

/-- A statement is added to its place, after what is there, and to no other one. -/
lemma pieces_addTop (b : Buckets) (s : TopStatement) (place : Place) :
    (addTop source b s).pieces place =
      b.pieces place ++ if s.place = place then [s.piece source] else [] := by
  unfold addTop addStatement TopStatement.place
  cases place <;> split_ifs <;> simp_all [pieces, TopStatement.piece]

/-- **Each bucket gets its statements, in order.** -/
lemma pieces_foldl_addTop (source : Text) (statements : List TopStatement) (b : Buckets)
    (place : Place) :
    (statements.foldl (addTop source) b).pieces place =
      b.pieces place ++ (statements.filter (·.place = place)).map (TopStatement.piece source) := by
  induction statements generalizing b with
  | nil => simp
  | cons s statements ih =>
    rw [List.foldl_cons, ih, pieces_addTop, List.filter_cons]
    by_cases hplace : s.place = place
    · simp [hplace]
    · simp [hplace]

/-- **Sorting statements by their places neither loses nor repeats any.** -/
lemma perm_filter_place (statements : List TopStatement) :
    (statements.filter (·.place = .imports) ++ statements.filter (·.place = .moduleBody) ++
      statements.filter (·.place = .instanceBody)).Perm statements := by
  induction statements with
  | nil => exact .nil
  | cons s statements ih =>
    cases hplace : s.place with
    | imports => simpa [hplace] using ih
    | moduleBody =>
      rw [List.append_assoc] at ih
      simpa [hplace] using List.perm_middle.trans (ih.cons s)
    | instanceBody => simpa [hplace] using List.perm_middle.trans (ih.cons s)

end Buckets

end OneFile
