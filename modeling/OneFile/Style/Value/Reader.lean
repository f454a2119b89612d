import OneFile.Style.Value

/-!
# Reading terms

Readings of terms that many properties have, and of terms in an order that does not matter.

## Main definitions

* `OneFile.Style.Term.length`, `OneFile.Style.Term.lengthPercentage`
* `OneFile.Style.Value.sides` — up to four terms for the sides of a box.
* `OneFile.Style.Value.anyOrder` — terms in any order.
-/

namespace OneFile.Style

open Reading

namespace Term

/-! ### Names and strings -/

/-- One of the given names. -/
def oneWord (names : List String) : Reading Term := word <$> oneOf names

/-- A name that is up to the author. -/
def customName : Reading Term := name <$> authorName

/-- A string. -/
def quoted : Reading Term := string <$> Reading.string

/-- A color in any notation. -/
def anyColor : Reading Term := color <$> Color.read

/-- An address. -/
def address : Reading Term := accept fun n =>
  match n with
  | .leaf (.url content) _ => some (url content)
  | .block (.call f) _ children _ =>
    if Text.lower f = "url".toList then url <$> Reading.string.all children else none
  | _ => none

/-! ### Amounts -/

/-- An amount of one of the measures that are allowed, or a function of such amounts. -/
def measured (allowed : Measure → Bool) : Reading Term :=
  (do
    let s ← Sum.read allowed
    guard s.number?.isNone
    return sum s) <|>
  accept fun n => do
    let a ← Amount.ofNode? n
    guard (allowed a.measure)
    return amount a

/-- Whether something is a length. -/
def isLength (m : Measure) : Bool := m matches .length _

/-- Whether something is a length or a percentage. -/
def isLengthPercentage (m : Measure) : Bool := isLength m || m == .percentage

/-- A number without a unit, in a place for a length, which is a number of pixels. -/
def pixels : Reading Term := accept fun n =>
  match n with
  | .leaf (.number v) _ => some (amount ⟨v.value, .length "px".toList⟩)
  | _ => none

/-- A length. -/
def length : Reading Term := measured isLength <|> pixels

/-- A length or a percentage. -/
def lengthPercentage : Reading Term := measured isLengthPercentage <|> pixels

/-- A length or a percentage, or the length that follows from elsewhere. -/
def lengthPercentageOrAuto : Reading Term := oneWord ["auto"] <|> lengthPercentage

/-- A percentage. -/
def plainPercentage : Reading Term := measured (· == .percentage)

/-- The value of a number, which may be computed. -/
def numberValue : Reading Rat :=
  (do
    let some q := (← Sum.read fun _ => false).number? | failure
    return q) <|>
  accept fun n =>
    match n with
    | .leaf (.number v) _ => some v.value
    | _ => none

/-- A number. -/
def anyNumber : Reading Term := number <$> numberValue

/-- A number or a percentage. -/
def numberOrPercentage : Reading Term := anyNumber <|> plainPercentage

/-- A number, or a percentage that stands for a part of one. -/
def opacity : Reading Term := anyNumber <|> do
  let some a := (← plainPercentage).amount? | failure
  return number a.value

/-- A whole number. -/
def integer : Reading Term := accept fun n =>
  match n with
  | .leaf (.number v) _ => if v.whole then some (number v.value) else none
  | _ => none

/-- An angle. -/
def angle : Reading Term := measured fun m => m matches .angle _

/-- An angle, or a zero that stands for one. -/
def angleOrZero : Reading Term := angle <|> do
  let t ← anyNumber
  guard t.isZero
  return amount ⟨0, .angle "deg".toList⟩

/-- A duration. -/
def time : Reading Term := measured fun m => m matches .time _

/-- A resolution. -/
def resolution : Reading Term := measured fun m => m matches .resolution _

end Term

namespace Value

/-- A grammar of a property. -/
abbrev Grammar := Reading (List (List Term))

/-! ### Terms in order -/

/-- A single term. -/
def single (r : Reading Term) : Grammar := do return [[← r]]

/-- Items with commas between them. -/
def list (r : Reading (List Term)) : Grammar := commaSeparated r

/-- Terms with commas between them. -/
def listOf (r : Reading Term) : Grammar := commaSeparated (List.singleton <$> r)

/-- Two terms, of which the second one is written only if it is not the same. -/
def pairTerms (r : Reading Term) : Reading (List Term) := do
  let a ← r
  match ← attempt r with
  | some b => return if a.same b then [a] else [a, b]
  | none => return [a]

/-- Two terms. -/
def pair (r : Reading Term) : Grammar := do return [← pairTerms r]

/-- Terms for the four sides of a box, in the fewest terms. -/
def shortenSides (top right bottom left : Term) : List Term :=
  let vertical := top.same bottom
  let horizontal := right.same left
  if vertical && horizontal && top.same right then [top]
  else if vertical && horizontal then [top, right]
  else if horizontal then [top, right, bottom]
  else [top, right, bottom, left]

/-- Up to four terms for the sides of a box. -/
def sideTerms (r : Reading Term) : Reading (List Term) := do
  let a ← r
  let some b ← attempt r | return [a]
  let some c ← attempt r | return shortenSides a b a b
  let some d ← attempt r | return shortenSides a b c b
  return shortenSides a b c d

/-- Up to four terms for the sides of a box. -/
def sides (r : Reading Term) : Grammar := do return [← sideTerms r]

/-! ### Terms in any order -/

/-- The first reading without a result that succeeds, with its result put in its place. -/
def fillOne {α : Type} : List (Reading α × Option α) → Reading (List (Reading α × Option α))
  | [] => failure
  | (r, some a) :: others => do return (r, some a) :: (← fillOne others)
  | (r, none) :: others => do
    match ← attempt r with
    | some a => return (r, some a) :: others
    | none => return (r, none) :: (← fillOne others)

/-- Fills places as long as that is possible, at most `fuel` times. -/
def fill {α : Type} : Nat → List (Reading α × Option α) → Reading (List (Reading α × Option α))
  | 0, places => return places
  | fuel + 1, places => do
    match ← attempt (fillOne places) with
    | some places' => fill fuel places'
    | none => return places

/-- What readings find, each at most once and in any order. -/
def anyOrder {α : Type} (rs : List (Reading α)) : Reading (List (Option α)) := do
  let places ← fill rs.length (rs.map (·, none))
  return places.map Prod.snd

/-- The terms that are not the ones to be taken when they are left out. -/
def unlessDefault (found : List (Option Term)) (isDefault : List (Term → Bool)) : List Term :=
  (found.zip isDefault).filterMap fun (t, d) => t.filter fun t => !d t

end Value

end OneFile.Style
