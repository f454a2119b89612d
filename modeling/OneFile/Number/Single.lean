import OneFile.Text.Basic

/-!
# Numbers of single precision

Numbers in style sheets have significands of 24 bits. They are kept as the rational numbers that
they stand for, so arithmetic is exact, and is followed by rounding to the nearest number of single
precision.

## Main definitions

* `OneFile.Single.nearest` — rounding to single precision.
* `OneFile.Single.shortest` — the shortest decimal that reads back as the number.
* `OneFile.Single.toText` — a number with at most six significant digits.
-/

namespace OneFile.Single

/-! ### Rounding -/

/-- The nearest integer; a half goes to the even neighbour. -/
def roundEven (q : Rat) : Int :=
  let f := q.floor
  let r := q - f
  if r < 1 / 2 then f
  else if 1 / 2 < r then f + 1
  else if f % 2 = 0 then f else f + 1

/-- The nearest integer; a half goes up. -/
def roundUp (q : Rat) : Int := (q + 1 / 2).floor

/-- A power with any whole exponent. -/
def power (base : Nat) (e : Int) : Rat :=
  if 0 ≤ e then (Nat.pow base e.toNat : Rat) else 1 / (Nat.pow base (-e).toNat : Rat)

/-- The greatest `e` with `2 ^ e ≤ q`, for a positive `q`. -/
def binaryExponent (q : Rat) : Int :=
  let e : Int := (Nat.log2 q.num.natAbs : Int) - (Nat.log2 q.den : Int)
  if power 2 e ≤ q then e else e - 1

/-- The distance of the numbers of single precision around `q`, which is not zero. -/
def step (q : Rat) : Rat :=
  power 2 (max (-149) (binaryExponent (if q < 0 then -q else q) - 23))

/-- The nearest number of single precision. -/
def nearest (q : Rat) : Rat :=
  if q = 0 then 0 else roundEven (q / step q) * step q

/-! ### Decimals -/

/-- A whole number of units of a power of ten. -/
structure Decimal where
  units : Nat
  exponent : Int
deriving DecidableEq, Repr

namespace Decimal

/-- The number that a decimal stands for. -/
def value (d : Decimal) : Rat := d.units * power 10 d.exponent

/-- The digits of the units. -/
def digits (d : Decimal) : Text := Nat.toDigits 10 d.units

/-- The decimal without zeros at its end; `fuel` bounds their number. -/
def trimWithin : Nat → Decimal → Decimal
  | 0, d => d
  | fuel + 1, d =>
    if d.units ≠ 0 ∧ d.units % 10 = 0 then trimWithin fuel ⟨d.units / 10, d.exponent + 1⟩ else d

/-- The decimal without zeros at its end. -/
def trim (d : Decimal) : Decimal := trimWithin d.digits.length d

/-- The decimal with at most `n` significant digits; a half goes up. -/
def restrict (n : Nat) (d : Decimal) : Decimal :=
  let extra := d.digits.length - n
  if extra = 0 then d
  else ⟨(roundUp ((d.units : Rat) / Nat.pow 10 extra)).toNat, d.exponent + extra⟩

/-- The digits with a decimal point among them, zeros where they are needed, or an exponent where
the number is very large or very small. -/
def toText (d : Decimal) : Text :=
  let ds := d.digits
  let whole : Int := ds.length + d.exponent
  let zeros (n : Int) : Text := List.replicate n.toNat '0'
  if 0 ≤ d.exponent ∧ whole ≤ 21 then ds ++ zeros d.exponent
  else if 0 < whole ∧ whole ≤ 21 then ds.take whole.toNat ++ '.' :: ds.drop whole.toNat
  else if -6 < whole ∧ whole ≤ 0 then '0' :: '.' :: zeros (-whole) ++ ds
  else
    let e := whole - 1
    let mantissa := match ds with
      | [] => []
      | [c] => [c]
      | c :: cs => c :: '.' :: cs
    mantissa ++ 'e' :: (if e < 0 then '-' :: Text.ofNat (-e).toNat else Text.ofNat e.toNat)

end Decimal

/-- The greatest `e` with `10 ^ e ≤ q`, for a positive `q`. -/
def decimalExponent (q : Rat) : Int :=
  let whole := q.floor.toNat
  if 0 < whole then (Nat.toDigits 10 whole).length - 1
  else
    Int.negOfNat (Nat.toDigits 10 ((1 / q).ceil.toNat - 1)).length

/-- The nearest decimal to `q` out of those with `n` significant digits that read back as `q`. -/
def shortestOf (q : Rat) (n : Nat) : Option Decimal :=
  let exponent := decimalExponent q + 1 - n
  let scaled := q / power 10 exponent
  let low := scaled.floor.toNat
  let candidates := [low, low + 1].map (⟨·, exponent⟩ : Nat → Decimal)
  let distance (d : Decimal) : Rat := if d.value < q then q - d.value else d.value - q
  match candidates.filter fun d => nearest d.value == q with
  | [] => none
  | [d] => some d
  | d :: e :: _ => some (if distance d ≤ distance e then d else e)

/-- The shortest decimal that reads back as the positive number `q` of single precision. Nine
digits are always enough. -/
def shortest (q : Rat) : Decimal :=
  match [1, 2, 3, 4, 5, 6, 7, 8].findSome? (shortestOf q) with
  | some d => d
  | none => (shortestOf q 9).getD ⟨0, 0⟩

/-! ### Writing -/

/-- A number with at most six significant digits. -/
def toText (q : Rat) : Text :=
  if q = 0 then ['0']
  else
    let written := ((shortest (if q < 0 then -q else q)).restrict 6).trim.toText
    if q < 0 then '-' :: written else written

/-- A number without the zero before its decimal point. -/
def toShortText (q : Rat) : Text :=
  let s := toText (if q < 0 then -q else q)
  let s := match s with
    | '0' :: '.' :: fraction => '.' :: fraction
    | _ => s
  if q < 0 then '-' :: s else s

end OneFile.Single
