import OneFile.Style.Declaration

/-!
# Queries

A query asks for features of the medium or of a container. Features that are numbers are compared
with a value, whatever way they were written.

## Main definitions

* `OneFile.Style.Feature`
* `OneFile.Style.Query` — a condition on features.
* `OneFile.Style.MediaQuery`
* `OneFile.Style.ContainerQuery`
-/

namespace OneFile.Style

/-! ### Features -/

/-- How a feature compares with a value. -/
inductive Comparison where
  | equal
  | greater
  | greaterEqual
  | less
  | lessEqual
deriving DecidableEq, Repr

/-- The comparison with both sides exchanged. -/
def Comparison.opposite : Comparison → Comparison
  | .equal => .equal
  | .greater => .less
  | .greaterEqual => .lessEqual
  | .less => .greater
  | .lessEqual => .greaterEqual

/-- What is asked of a feature. -/
inductive Feature where
  | present (name : Text)
  | equals (name : Text) (value : List Term)
  | compares (name : Text) (c : Comparison) (value : List Term)
  /-- A feature between two values. -/
  | between (low : List Term) (c : Comparison) (name : Text) (d : Comparison) (high : List Term)
deriving Repr

/-! ### Conditions -/

/-- A condition. -/
inductive Query where
  | feature (f : Feature)
  | not (q : Query)
  /-- All of some conditions, or any of them. -/
  | combination (all : Bool) (qs : List Query)
  /-- A condition on the values of properties. -/
  | style (q : Query)
  /-- A condition on the state of scrolling. -/
  | scrollState (q : Query)
  | declaration (d : Declaration)
  | property (name : Text)
deriving Repr

/-- A kind of medium, as far as it is said, and a condition. -/
structure MediaQuery where
  /-- Whether the kind is only for programs that know of conditions, or is not the one meant. -/
  qualifier : Option Text
  medium : Option Text
  condition : Option Query
deriving Repr

/-- The name of a container, and a condition on it. -/
structure ContainerQuery where
  name : Option Text
  condition : Option Query
deriving Repr

/-! ### Writing -/

/-- A comparison. -/
def Comparison.write : Comparison → Text
  | .equal => " = ".toList
  | .greater => " > ".toList
  | .greaterEqual => " >= ".toList
  | .less => " < ".toList
  | .lessEqual => " <= ".toList

/-- A feature in parentheses. -/
def Feature.write (f : Feature) : Text :=
  let terms := Term.writeTerms false
  '(' :: ((match f with
    | present name => writeIdent name
    | equals name value => writeIdent name ++ ':' :: ' ' :: terms value
    | compares name c value => writeIdent name ++ c.write ++ terms value
    | between low c name d high =>
      terms low ++ c.write ++ writeIdent name ++ d.write ++ terms high) ++ [')'])

namespace Query

/-- Whether a condition needs parentheses in a combination, or outside of one. -/
def needsParens (within : Option Bool) : Query → Bool
  | not _ => true
  | combination all _ => some all != within
  | declaration _ | property _ => true
  | feature _ | style _ | scrollState _ => false

mutual

/-- A condition. -/
def write : Query → Text
  | feature f => f.write
  | not q => "not ".toList ++ parenthesize (q.needsParens none) q.write
  | combination all qs => writeAll all qs
  | style q => "style(".toList ++ q.write ++ [')']
  | scrollState q =>
    "scroll-state".toList ++ parenthesize (!(q matches .feature _)) q.write
  | declaration d => d.writeBare false
  | property name => name

/-- Conditions with a word between them. -/
def writeAll (all : Bool) : List Query → Text
  | [] => []
  | [q] => parenthesize (q.needsParens (some all)) q.write
  | q :: r :: qs =>
    parenthesize (q.needsParens (some all)) q.write
      ++ (if all then " and ".toList else " or ".toList) ++ writeAll all (r :: qs)

end

end Query

/-- A query of a medium. -/
def MediaQuery.write (m : MediaQuery) : Text :=
  let isPlain := m.qualifier.isNone && m.medium.isNone
  let medium : Text :=
    match m.medium with
    | some name => name
    | none => if m.qualifier.isSome || m.condition.isNone then "all".toList else []
  m.qualifier.elim [] (· ++ [' ']) ++ medium ++
    match m.condition with
    | none => []
    | some q =>
      if isPlain then q.write
      else " and ".toList ++ parenthesize (q matches .combination false _) q.write

/-- Queries of media with commas between them. No query at all holds for no medium. -/
def MediaQuery.writeList (ms : List MediaQuery) : Text :=
  match ms with
  | [] => "not all".toList
  | _ => ", ".toList.intercalate (ms.map write)

/-- A query of a container. -/
def ContainerQuery.write (c : ContainerQuery) : Text :=
  [' '].intercalate ((c.name.map writeIdent).toList ++ (c.condition.map Query.write).toList)

end OneFile.Style
