import OneFile.Style.Piece

/-!
# Amounts

An amount is a number of units. Lengths, percentages and times are added and compared where that
does not depend on where they are used.

## Main definitions

* `OneFile.Style.Amount`
* `OneFile.Style.Amount.ofNode?`
* `OneFile.Style.Amount.add?`
* `OneFile.Style.Amount.write`
-/

namespace OneFile.Style

/-- What is counted. -/
inductive Measure where
  | number
  /-- A part of what one hundred percent stands for. -/
  | percentage
  | length (unit : Text)
  | angle (unit : Text)
  | time (inSeconds : Bool)
  | resolution (unit : Text)
  /-- A share of the space that is left. -/
  | share
deriving DecidableEq, Repr

/-- A number of units. A percentage is kept as a part of one. -/
structure Amount where
  value : Rat
  measure : Measure
deriving DecidableEq, Repr

namespace Amount

/-! ### Reading -/

/-- What a unit, in lower case, counts. -/
def measureOf? (unit : Text) : Option Measure :=
  match String.ofList unit with
  | "s" => some (.time true)
  | "ms" => some (.time false)
  | "deg" | "grad" | "rad" | "turn" => some (.angle unit)
  | "dpi" | "dpcm" => some (.resolution unit)
  | "dppx" | "x" => some (.resolution ['x'])
  | "fr" => some .share
  | s => if lengthUnits.contains s then some (.length unit) else none

/-- The amount that a node stands for. -/
def ofNode? : Node → Option Amount
  | .leaf (.number n) _ => some ⟨n.value, .number⟩
  | .leaf (.percentage n) _ => some ⟨n.value, .percentage⟩
  | .leaf (.dimension n unit) _ => (measureOf? (Text.lower unit)).map (⟨n.value, ·⟩)
  | _ => none

/-! ### Arithmetic -/

/-- The length of a unit in pixels, if that is the same everywhere. -/
def pixels? (unit : Text) : Option Rat :=
  let centimetre : Rat := Single.nearest (96 / Single.nearest (254 / 100))
  match String.ofList unit with
  | "px" => some 1
  | "in" => some 96
  | "cm" => some centimetre
  | "mm" => some (Single.nearest (centimetre / 10))
  | "q" => some (Single.nearest (centimetre / 40))
  | "pt" => some (Single.nearest (96 / 72))
  | "pc" => some 16
  | _ => none

/-- Half a turn in radians. -/
def halfTurn : Rat := Single.nearest (31415926535897932 / 10000000000000000)

/-- The size of an angle in degrees. -/
def degrees (value : Rat) (unit : Text) : Rat :=
  match String.ofList unit with
  | "grad" => Single.nearest (Single.nearest (value * 180) / 200)
  | "turn" => Single.nearest (value * 360)
  | "rad" => Single.nearest (Single.nearest (value * 180) / halfTurn)
  | _ => value

/-- The amount in a unit that all amounts have with which it can be compared. -/
def canonical (a : Amount) : Amount :=
  match a.measure with
  | .length unit =>
    match pixels? unit with
    | some p => ⟨Single.nearest (a.value * p), .length "px".toList⟩
    | none => a
  | .angle unit => ⟨degrees a.value unit, .angle "deg".toList⟩
  | .time true => ⟨Single.nearest (a.value * 1000), .time false⟩
  | _ => a

/-- The sum of two amounts, where it is an amount. -/
def add? (a b : Amount) : Option Amount :=
  if a.measure = b.measure then some ⟨Single.nearest (a.value + b.value), a.measure⟩
  else
    let a := a.canonical
    let b := b.canonical
    if a.measure = b.measure then some ⟨Single.nearest (a.value + b.value), a.measure⟩ else none

/-- Whether an amount is known to be less than another one. -/
def less? (a b : Amount) : Option Bool :=
  let a := a.canonical
  let b := b.canonical
  if a.measure = b.measure then some (decide (a.value < b.value)) else none

/-- A multiple of an amount. -/
def scale (k : Rat) (a : Amount) : Amount := ⟨Single.nearest (k * a.value), a.measure⟩

/-! ### Writing -/

/-- An amount. Nothing is nothing in any unit of length, but sums need the unit. -/
def write (inSum : Bool) (a : Amount) : Text :=
  match a.measure with
  | .number => writeNumber a.value
  | .percentage => writePercentage a.value
  | .length unit => if !inSum ∧ a.value = 0 then ['0'] else writeDimension a.value unit
  | .angle unit =>
    if unit = "rad".toList then writeDimension (degrees a.value unit) "deg".toList
    else writeDimension a.value unit
  | .time inSeconds => writeTime a.value inSeconds
  | .resolution unit => writeDimension a.value unit
  | .share => writeDimension a.value "fr".toList

end Amount

end OneFile.Style
