import OneFile.Style.Amount

/-!
# Sums

Values are computed from amounts by sums, products with numbers, and the least or greatest of
several values. A sum is kept as the list of its summands, with as few of them as possible.

## Main definitions

* `OneFile.Style.Summand`, `OneFile.Style.Sum`
* `OneFile.Style.Sum.read` — the function at the start of a list of nodes.
* `OneFile.Style.Sum.write`
-/

namespace OneFile.Style

open Reading

/-- A summand: an amount, or a multiple of a function of sums. -/
inductive Summand where
  | amount (a : Amount)
  | call (factor : Rat) (name : Text) (arguments : List (List Summand))
deriving Repr

/-- A sum, as the list of its summands. -/
abbrev Sum := List Summand

namespace Summand

/-- Whether a summand is taken away. -/
def isNegative : Summand → Bool
  | amount a => a.value < 0
  | call k _ _ => k < 0

/-- Whether a summand is known to add something. -/
def isPositive : Summand → Bool
  | amount a => 0 < a.value
  | call .. => false

/-- Whether a summand is nothing. -/
def isZero : Summand → Bool
  | amount a => a.value == 0
  | call .. => false

/-- A multiple of a summand. -/
def scale (k : Rat) : Summand → Summand
  | amount a => amount (a.scale k)
  | call k' name arguments => call (Single.nearest (k * k')) name arguments

/-- The sum of two summands, where it is a summand. -/
def add? : Summand → Summand → Option Summand
  | amount a, amount b => (a.add? b).map amount
  | _, _ => none

end Summand

namespace Sum

/-! ### Arithmetic -/

/-- The summands with another one taken into the first one that it can be added to. -/
def combine? (s : Summand) : Sum → Option Sum
  | [] => none
  | t :: ts =>
    match t.add? s with
    | some u => some (if u.isZero && !ts.isEmpty then ts else u :: ts)
    | none => (combine? s ts).map fun us => if us.all Summand.isZero then [t] else t :: us

/-- Adds a summand. -/
def add (sum : Sum) (s : Summand) : Sum :=
  match combine? s sum with
  | some result => result
  | none =>
    if s.isZero then sum
    else
      match sum with
      | [t] => if t.isZero then [s] else if t.isNegative && s.isPositive then [s, t] else [t, s]
      | _ => sum ++ [s]

/-- Adds all summands of another sum. -/
def addAll (sum other : Sum) : Sum := other.foldl add sum

/-- A multiple of a sum. -/
def scale (k : Rat) (sum : Sum) : Sum := if k = 1 then sum else sum.map (Summand.scale k)

/-- The number that a sum is. -/
def number? : Sum → Option Rat
  | [.amount ⟨q, .number⟩] => some q
  | _ => none

/-- The amount that a sum is. -/
def amount? : Sum → Option Amount
  | [.amount a] => some a
  | _ => none

/-! ### The least and the greatest -/

/-- Whether the first sum is known to be less than the second one. -/
def less? (a b : Sum) : Option Bool :=
  match a.amount?, b.amount? with
  | some a, some b => a.less? b
  | _, _ => none

/-- The arguments with another one taken into account: it is left out if it is known not to be the
one that counts, and takes the place of one that does not count any more. -/
def reduceWith (counts : Sum → Sum → Option Bool) (s : Sum) : List Sum → List Sum
  | [] => [s]
  | t :: ts =>
    match counts s t with
    | some true => s :: ts
    | some false => t :: ts
    | none => t :: reduceWith counts s ts

/-- The least of some sums, or the greatest. -/
def extreme (name : String) (counts : Sum → Sum → Option Bool) (arguments : List Sum) : Sum :=
  match arguments.foldl (fun kept s => reduceWith counts s kept) [] with
  | [s] => s
  | kept => [.call 1 name.toList kept]

/-- A sum that is at least `low` and at most `high`. -/
def clamp (low center high : Sum) : Sum :=
  match less? high center with
  | none => [.call 1 "clamp".toList [low, center, high]]
  | some above =>
    let center := if above then high else center
    match less? center low with
    | some below => if below then low else center
    | none => [.call 1 "max".toList [low, center]]

/-! ### Reading -/

/-- Whether the next node is a blank. -/
def beforeBlank : Reading Bool := do
  match (← get).dropWhile fun n => n matches .leaf .comment _ with
  | .leaf .blank _ :: _ => return true
  | _ => return false

/-- The factors after a value, at most `fuel`. One of two factors has to be a number. -/
def factors (value : Reading Sum) : Nat → Sum → Reading Sum
  | 0, s => return s
  | fuel + 1, s => do
    if ← passes (delim '*') then
      let t ← value
      match t.number?, s.number? with
      | some k, _ => factors value fuel (scale k s)
      | none, some k => factors value fuel (scale k t)
      | none, none => failure
    else if ← passes (delim '/') then
      let some k := (← value).number? | failure
      guard (k ≠ 0)
      factors value fuel (scale (Single.nearest (1 / k)) s)
    else return s

/-- A product. -/
def product (value : Reading Sum) : Reading Sum := do
  let s ← value
  factors value (← get).length s

/-- The summands after the first one, at most `fuel`. There are blanks around the signs. -/
def summands (value : Reading Sum) : Nat → Sum → Reading Sum
  | 0, s => return s
  | fuel + 1, s => do
    if (← beforeBlank) && !(← atEnd) then
      match ← node with
      | .leaf (.delim '+') _ => summands value fuel (addAll s (← product value))
      | .leaf (.delim '-') _ => summands value fuel (addAll s (scale (-1) (← product value)))
      | _ => failure
    else return s

/-- A sum of values. -/
def sumOf (value : Reading Sum) : Reading Sum := do
  let s ← product value
  summands value (← get).length s

/-- A function that computes a value; what is between its parentheses is read with `value`. -/
def function (value : Reading Sum) : Reading Sum := accept fun n =>
  match n with
  | .block (.call f) _ children _ =>
    let arguments : Option (List Sum) := (commaSeparated (sumOf value)).all children
    match String.ofList (Text.lower f), arguments with
    | "calc", some [s] => some s
    | "min", some ss => some (extreme "min" less? ss)
    | "max", some ss => some (extreme "max" (fun a b => less? b a) ss)
    | "clamp", some [a, b, c] => some (clamp a b c)
    | _, _ => none
  | _ => none

/-- An amount that may be part of a sum. -/
def plain (allowed : Measure → Bool) : Reading Sum := accept fun n => do
  let a ← Amount.ofNode? n
  guard (a.measure = .number || allowed a.measure)
  return [.amount a]

/-- A value of a sum, with functions nested at most `depth` deep. -/
def value (allowed : Measure → Bool) : Nat → Reading Sum
  | 0 => plain allowed
  | depth + 1 =>
    function (value allowed depth) <|> within .paren (sumOf (value allowed depth))
      <|> plain allowed

/-- Whether summands are all of one kind: numbers, or none of them. -/
def isConsistent (s : Sum) : Bool :=
  let isNumber : Summand → Bool := fun t =>
    match t with
    | .amount a => a.measure = .number
    | .call .. => false
  s.length == 1 || !s.any isNumber

/-- The function that a list of nodes starts with. -/
def read (allowed : Measure → Bool) : Reading Sum := do
  let s ← function (value allowed (Node.depthList (← get)))
  guard (isConsistent s)
  return s

/-! ### Writing -/

mutual

/-- A summand, whatever its sign. -/
def writeSummand : Summand → Text
  | .amount a => a.write true
  | .call k name arguments =>
    let f := name ++ '(' :: (writeArguments arguments ++ [')'])
    if k = 1 then f
    else if -1 < k ∧ k < 1 then f ++ " / ".toList ++ writeNumber (Single.nearest (1 / k))
    else writeNumber k ++ " * ".toList ++ f

/-- Sums with commas between them. -/
def writeArguments : List (List Summand) → Text
  | [] => []
  | [s] => writeSum s
  | s :: t :: ss => writeSum s ++ ',' :: ' ' :: writeArguments (t :: ss)

/-- A sum, with its signs between the summands. -/
def writeSum : List Summand → Text
  | [] => []
  | s :: ss => writeSummand s ++ writeOthers ss

/-- The summands after the first one. -/
def writeOthers : List Summand → Text
  | [] => []
  | .amount a :: ss =>
    (if a.value < 0 then " - ".toList ++ (a.scale (-1)).write true
      else " + ".toList ++ a.write true) ++ writeOthers ss
  | .call k name arguments :: ss =>
    let f := name ++ '(' :: (writeArguments arguments ++ [')'])
    let size := if k < 0 then -k else k
    (if k < 0 then " - ".toList else " + ".toList)
      ++ (if size = 1 then f
        else if size < 1 then f ++ " / ".toList ++ writeNumber (Single.nearest (1 / size))
        else writeNumber size ++ " * ".toList ++ f)
      ++ writeOthers ss

end

/-- A sum. One of a single summand needs no parentheses. -/
def write (s : Sum) : Text :=
  match s with
  | [.amount a] => a.write false
  | [.call k name arguments] =>
    if k = 1 then writeSum s else "calc(".toList ++ writeSum [.call k name arguments] ++ [')']
  | _ => "calc(".toList ++ writeSum s ++ [')']

end Sum

end OneFile.Style
