import OneFile.Style.Reading

/-!
# Counting siblings

The notation of pseudo-classes that count siblings: `2n + 1` stands for every second sibling from
the first one on. It is divided into tokens in many ways, because `n-1` is a name, `2n-1` is a
number with a unit, and `-1` is a number.

## Main definitions

* `OneFile.Style.Nth.read` — the two numbers of the notation.
-/

namespace OneFile.Style.Nth

/-- A whole number, and whether it has a sign. -/
def whole? (n : Numeral) : Option (Int × Bool) :=
  if n.whole then
    some (max (-2147483648) (min 2147483647 n.value.floor), n.signed)
  else none

/-- A whole number without a sign. -/
def unsigned : Reading Int := Reading.accept fun node =>
  match node with
  | .leaf (.number n) _ =>
    match whole? n with
    | some (b, false) => some b
    | _ => none
  | _ => none

/-- A whole number with a sign. -/
def signed : Reading Int := Reading.accept fun node =>
  match node with
  | .leaf (.number n) _ =>
    match whole? n with
    | some (b, true) => some b
    | _ => none
  | _ => none

/-- What may be added after `n`: nothing is zero. A sign without its number is a fault. -/
def offset : Reading Int := do
  if ← Reading.passes (Reading.delim '+') then unsigned
  else if ← Reading.passes (Reading.delim '-') then return -(← unsigned)
  else return (← Reading.attempt signed).getD 0

/-- The digits of a name such as `n-12`, as a number to be added. -/
def dashDigits? (name : Text) : Option Int :=
  match name with
  | c :: '-' :: ds =>
    if (c = 'n' ∨ c = 'N') ∧ ds ≠ [] ∧ ds.all Char.isDigit then
      some (-(min 2147483648 (ds.foldl (fun n d => 10 * n + (d.toNat - '0'.toNat)) 0) : Nat))
    else none
  | _ => none

/-- What follows `a`, in a name or a unit that starts with `n`. -/
def afterTimes (name : Text) (a : Int) : Reading (Int × Int) := do
  match String.ofList (Text.lower name) with
  | "n" => return (a, ← offset)
  | "n-" => return (a, -(← unsigned))
  | _ =>
    let some b := dashDigits? name | failure
    return (a, b)

/-- The two numbers of the notation. -/
def read : Reading (Int × Int) := do
  match ← Reading.node with
  | .leaf (.number n) _ =>
    let some (b, _) := whole? n | failure
    return (0, b)
  | .leaf (.dimension n unit) _ =>
    let some (a, _) := whole? n | failure
    afterTimes unit a
  | .leaf (.ident name) _ =>
    match String.ofList (Text.lower name) with
    | "even" => return (2, 0)
    | "odd" => return (2, 1)
    | _ =>
      match name with
      | '-' :: name => afterTimes name (-1)
      | _ => afterTimes name 1
  | .leaf (.delim '+') _ =>
    match ← Reading.adjacent with
    | .leaf (.ident name) _ => afterTimes name 1
    | _ => failure
  | _ => failure

end OneFile.Style.Nth
