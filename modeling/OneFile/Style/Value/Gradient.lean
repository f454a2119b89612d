import OneFile.Style.Value.Position

/-!
# Gradients

A gradient is drawn along a line, from a point, or around one. What is usual about it is not
written.

## Main definitions

* `OneFile.Style.Gradient.read`
-/

namespace OneFile.Style.Gradient

open Reading

/-! ### Colors along the way -/

/-- A color with its place, or the place in the middle between two colors. -/
inductive Stop where
  | color (c : Term) (place : Option Term)
  | middle (place : Term)

/-- A color with up to two places. -/
def colorStops (place : Reading Term) : Reading (List Stop) := do
  let c ← Term.anyColor
  let first ← attempt place
  match ← attempt place with
  | some second => return [.color c first, .color c (some second)]
  | none => return [.color c first]

/-- Colors and the middles between them. No middle comes first or after another one. -/
def stopsOf (place : Reading Term) : Bool → List (List Node) → Option (List Stop)
  | _, [] => some []
  | afterColor, part :: parts =>
    match (if afterColor then place.all part else none) with
    | some t => (stopsOf place false parts).map (.middle t :: ·)
    | none => do
      let stops ← (colorStops place).all part
      return stops ++ (← stopsOf place true parts)

/-- Colors and the middles between them. -/
def stops (place : Reading Term) : Reading (List Stop) := fun ns =>
  (stopsOf place false (splitAtCommas ns)).map fun ss => (ss, [])

/-- The stops as items. A color with two places is written once, and a middle is not written where
it would be anyway. -/
def stopItems : List Stop → List (List Term)
  | [] => []
  | .middle t :: ss => if t.same (.percentage (1 / 2)) then stopItems ss else [t] :: stopItems ss
  | .color c (some p) :: .color d (some q) :: ss =>
    if c.same d then [c, p, q] :: stopItems ss
    else [c, p] :: stopItems (.color d (some q) :: ss)
  | .color c place :: ss => (c :: place.toList) :: stopItems ss

/-! ### Along a line -/

/-- The side or corner that a line goes to. -/
def lineEnd : Reading (List Term) := do
  word "to"
  let across ← attempt (Term.oneWord ["left", "right"])
  let down ← attempt (Term.oneWord ["top", "bottom"])
  let across ← if across.isSome then pure across else attempt (Term.oneWord ["left", "right"])
  guard (across.isSome || down.isSome)
  return .ofWord "to" :: down.toList ++ across.toList

/-- The direction of a line. -/
def direction : Reading (List Term) := (List.singleton <$> Term.angleOrZero) <|> lineEnd

/-- Whether a direction is the usual one, which is down. -/
def isDown (ts : List Term) : Bool :=
  match ts with
  | [.word ['t', 'o'], t] => t.isWord "bottom"
  | [t] =>
    match t.amount? with
    | some a => a.canonical.value == 180
    | none => false
  | _ => false

/-- The arguments of a gradient along a line. -/
def along : Reading (List (List Term)) := do
  let way ← attempt do
    let ts ← direction
    comma
    return ts
  let items := stopItems (← stops Term.lengthPercentage)
  return (way.filter fun ts => !isDown ts).toList ++ items

/-! ### From a point -/

/-- How far a shape goes. -/
def extent : Reading Term :=
  Term.oneWord ["closest-side", "farthest-side", "closest-corner", "farthest-corner"]

/-- An extent, which is left out if it is the usual one. -/
def extentTerms (t : Option Term) : List Term :=
  (t.filter fun t => !t.isWord "farthest-corner").toList

/-- A shape with two radii. -/
def ellipse : Reading (List Term) :=
  let size : Reading (List Term) := do return [← Term.lengthPercentage, ← Term.lengthPercentage]
  let reach : Reading (List Term) := do return extentTerms (some (← extent))
  let named : Reading (List Term) := do
    word "ellipse"
    reach <|> size <|> pure []
  let bare : Reading (List Term) := do
    let ts ← reach <|> size
    guard !(← passes (word "circle"))
    let _ ← passes (word "ellipse")
    return ts
  bare <|> named

/-- A shape with one radius. -/
def circle : Reading (List Term) :=
  let reach (t : Option Term) : List Term := .ofWord "circle" :: extentTerms t
  let radius : Reading (List Term) := List.singleton <$> Term.length
  (do
    let t ← extent
    word "circle"
    return reach (some t)) <|>
  (do
    let ts ← radius
    let _ ← passes (word "circle")
    return ts) <|> do
  word "circle"
  (do return reach (some (← extent))) <|> radius <|> pure (reach none)

/-- The point that a gradient starts from. -/
def center : Reading Position := do
  word "at"
  Position.read

/-- A point, which is left out if it is the center. -/
def centerTerms (p : Option Position) : List Term :=
  match p with
  | none => []
  | some p =>
    if Position.isCenter p.across && Position.isCenter p.down then []
    else .ofWord "at" :: p.terms

/-- The arguments of a gradient from a point. -/
def outward : Reading (List (List Term)) := do
  let shape ← attempt (ellipse <|> circle)
  let point ← attempt center
  if shape.isSome || point.isSome then comma
  let start := shape.getD [] ++ centerTerms point
  let items := stopItems (← stops Term.lengthPercentage)
  return (if start.isEmpty then [] else [start]) ++ items

/-! ### Around a point -/

/-- The arguments of a gradient around a point. -/
def around : Reading (List (List Term)) := do
  let start ← attempt do
    word "from"
    Term.angleOrZero
  let point ← attempt center
  if start.isSome || point.isSome then comma
  let turned := (start.filter fun t => !t.isZero).elim [] fun t => [.ofWord "from", t]
  let before := turned ++ centerTerms point
  let place := (do
    let t ← Term.plainPercentage <|> Term.angleOrZero
    return t : Reading Term)
  let items := stopItems (← stops place)
  return (if before.isEmpty then [] else [before]) ++ items

/-! ### All gradients -/

/-- The gradients by the names of their functions. -/
def functions : List (String × Reading (List (List Term))) := [
  ("linear-gradient", along), ("repeating-linear-gradient", along),
  ("radial-gradient", outward), ("repeating-radial-gradient", outward),
  ("conic-gradient", around), ("repeating-conic-gradient", around)]

/-- A gradient. -/
def read : Reading Term :=
  functions.foldr (fun (f, r) others => (do return .call f.toList (← call f r)) <|> others) failure

end OneFile.Style.Gradient
