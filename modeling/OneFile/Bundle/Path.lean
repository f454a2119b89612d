import OneFile.Text.Basic

/-!
# Paths

File paths with slashes, and their lexical simplification: empty segments and single dots mean
nothing, and two dots take back the segment before them. Two dots with nothing to take back are
dropped.

## Main definitions

* `OneFile.Bundle.Path`, `OneFile.Bundle.Path.ofText`, `OneFile.Bundle.Path.toText`
* `OneFile.Bundle.Path.parent`
* `OneFile.Bundle.Path.fold`
-/

namespace OneFile.Bundle

/-- A path: whether it starts at the root, and its segments without empty ones and single
dots. -/
structure Path where
  absolute : Bool
  segments : List Text
deriving DecidableEq, Repr

namespace Path

/-- The stretches between slashes. -/
def split : Text → List Text
  | [] => [[]]
  | c :: s =>
    if c = '/' then [] :: split s
    else match split s with
      | [] => [[c]]
      | t :: ts => (c :: t) :: ts

/-- Whether the segment means something. -/
def isNamed (segment : Text) : Bool := !segment.isEmpty && segment != ['.']

/-- The path that a text spells. -/
def ofText (s : Text) : Path := ⟨s.head? == some '/', (split s).filter isNamed⟩

/-- The path as a text. -/
def toText (p : Path) : Text :=
  (if p.absolute then ['/'] else []) ++ ['/'].intercalate p.segments

/-- The directory that holds the path. What has no last segment lies in the empty path. -/
def parent (p : Path) : Path :=
  if p.segments.isEmpty then ⟨false, []⟩ else { p with segments := p.segments.dropLast }

/-- The path that `relative` names from `p`. -/
def join (p : Path) (relative : Path) : Path :=
  { p with segments := p.segments ++ relative.segments }

/-- One more segment after those already folded, latest first. -/
def foldStep (done : List Text) (segment : Text) : List Text :=
  if segment = ['.', '.'] then done.tail else segment :: done

/-- The path with every pair of dots taken together with the segment before it. -/
def fold (p : Path) : Path := { p with segments := (p.segments.foldl foldStep []).reverse }

end Path

end OneFile.Bundle
