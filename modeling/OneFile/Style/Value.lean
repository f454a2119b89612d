import OneFile.Style.Sum

/-!
# Values

A value that follows the grammar of its property is a list of items with commas between them, each
of them a list of terms. Any other value is a list of pieces.

## Main definitions

* `OneFile.Style.Term`, `OneFile.Style.Value`
* `OneFile.Style.Value.write`
-/

namespace OneFile.Style

/-- A term of a value. -/
inductive Term where
  /-- A name that the grammar gives a meaning to. -/
  | word (name : Text)
  /-- A name that is up to the author. -/
  | name (name : Text)
  | string (content : Text)
  | sum (s : Sum)
  | color (c : Color)
  | url (content : Text)
  | slash
  /-- A function; there are commas between its arguments. -/
  | call (name : Text) (arguments : List (List Term))
  /-- What is kept as pieces within a value that follows its grammar. -/
  | pieces (ps : List Piece)
deriving Repr

/-- A value. -/
inductive Value where
  | items (items : List (List Term))
  | pieces (ps : List Piece)
deriving Repr

namespace Term

/-- A term that stands for an amount. -/
def amount (a : Amount) : Term := sum [.amount a]

/-- A given name. -/
def ofWord (s : String) : Term := word s.toList

/-- A number. -/
def number (q : Rat) : Term := amount ⟨q, .number⟩

/-- A percentage; `q` is a part of one. -/
def percentage (q : Rat) : Term := amount ⟨q, .percentage⟩

/-- No length. -/
def nothing : Term := amount ⟨0, .length "px".toList⟩

/-- The amount that a term stands for. -/
def amount? : Term → Option Amount
  | sum s => s.amount?
  | _ => none

/-- Whether a term is an amount of nothing. -/
def isZero (t : Term) : Bool :=
  match t.amount? with
  | some a => a.value == 0
  | none => false

/-- Whether a term is the given name. -/
def isWord (s : String) : Term → Bool
  | word w => w == s.toList
  | _ => false

mutual

/-- A term; `units` tells whether nothing is written with its unit. -/
def writeWith (units : Bool) : Term → Text
  | word w => w
  | name n => writeIdent n
  | string content => writeString content
  | sum s =>
    match s with
    | [.amount a] => a.write units
    | _ => s.write
  | color c => c.write
  | url content => "url(".toList ++ writeString content ++ [')']
  | slash => ['/']
  | call f arguments => f ++ '(' :: (writeItems units arguments ++ [')'])
  | pieces ps => Piece.writeAll ps

/-- Terms with blanks between them. -/
def writeTerms (units : Bool) : List Term → Text
  | [] => []
  | [t] => t.writeWith units
  | t :: u :: ts => t.writeWith units ++ ' ' :: writeTerms units (u :: ts)

/-- Items with commas between them. -/
def writeItems (units : Bool) : List (List Term) → Text
  | [] => []
  | [i] => writeTerms units i
  | i :: j :: is => writeTerms units i ++ ',' :: ' ' :: writeItems units (j :: is)

end

/-- A term. -/
def write (t : Term) : Text := t.writeWith false

/-- Whether two terms are the same, units of nothing included. -/
def same (t u : Term) : Bool := t.writeWith true == u.writeWith true

end Term

namespace Value

/-- A value. -/
def write : Value → Text
  | items is => Term.writeItems false is
  | pieces ps => Piece.writeAll ps

end Value

end OneFile.Style
