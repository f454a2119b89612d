import OneFile.Style.Value.Reader

/-!
# Positions

A position is given by a place across and a place down, each as a distance from one of two sides.
What is not given is the center.

## Main definitions

* `OneFile.Style.Place1`
* `OneFile.Style.Position`
* `OneFile.Style.Position.terms`
-/

namespace OneFile.Style

open Reading

/-- A place between two sides. -/
inductive Place1 where
  | center
  /-- A distance from the side that is counted from. -/
  | offset (distance : Term)
  /-- A side, and perhaps a distance from it. The `near` one of two sides is the one that is
  counted from. -/
  | side (near : Bool) (distance : Option Term)
deriving Repr

/-- A place across and a place down. -/
structure Position where
  across : Place1
  down : Place1
deriving Repr

namespace Position

/-! ### Reading -/

/-- One of the two sides: whether it is the near one. -/
def sideOf (near far : String) : Reading Bool := do
  return (← oneOf [near, far]) = near.toList

/-- The left or the right side, of which the left one is near. -/
def acrossSide : Reading Bool := sideOf "left" "right"

/-- The upper or the lower side, of which the upper one is near. -/
def downSide : Reading Bool := sideOf "top" "bottom"

/-- A place with a side that is read by `side`. -/
def place (side : Reading Bool) : Reading Place1 :=
  (do word "center"; return .center) <|>
  (.offset <$> Term.lengthPercentage) <|>
  (do return .side (← side) (← attempt Term.lengthPercentage))

/-- The place down after a place across that is no center. -/
def afterOffset (across : Place1) : Reading Position := do
  if let some near ← attempt downSide then return ⟨across, .side near none⟩
  if let some t ← attempt Term.lengthPercentage then return ⟨across, .offset t⟩
  let _ ← passes (word "center")
  return ⟨across, .center⟩

/-- The place down after a side of the place across. A distance belongs to it if no side comes
after it. -/
def afterSide (near : Bool) (distance : Option Term) : Reading Position := do
  if ← passes (word "center") then return ⟨.side near distance, .center⟩
  if let some top ← attempt downSide then
    return ⟨.side near distance, .side top (← attempt Term.lengthPercentage)⟩
  return ⟨.side near none, distance.elim .center .offset⟩

/-- A position that starts with a place across. -/
def acrossFirst : Reading Position := do
  match ← place acrossSide with
  | .center =>
    if let some down ← attempt (place downSide) then return ⟨.center, down⟩
    return ⟨(← attempt (place acrossSide)).getD .center, .center⟩
  | .offset t => afterOffset (.offset t)
  | .side near distance => afterSide near distance

/-- A position that starts with a side of the place down. -/
def downFirst : Reading Position := do
  let top ← downSide
  let others ← attempt do
    let distance ← attempt Term.lengthPercentage
    match ← attempt acrossSide with
    | some near =>
      return (⟨.side near (← attempt Term.lengthPercentage), .side top distance⟩ : Position)
    | none =>
      word "center"
      return ⟨.center, .side top distance⟩
  return others.getD ⟨.center, .side top none⟩

/-- A position. -/
def read : Reading Position := acrossFirst <|> downFirst

/-! ### Writing -/

/-- Whether a place is the center. -/
def isCenter : Place1 → Bool
  | .center => true
  | .offset t => t.same (.percentage (1 / 2))
  | .side .. => false

/-- A place as terms. -/
def placeTerms (near far : String) : Place1 → List Term
  | .center => [.ofWord "center"]
  | .offset t => [t]
  | .side isNear distance => .ofWord (if isNear then near else far) :: distance.toList

/-- The distance of a side, from the side that is counted from. -/
def ofSide (near : Bool) : Term := if near then .nothing else .percentage 1

/-- The distance of a place from the side that is counted from, if that needs no computation. -/
def distance? : Place1 → Option Term
  | .center => some (.percentage (1 / 2))
  | .offset t => some (if t.isZero then .nothing else t)
  | .side true none => some .nothing
  | .side true (some t) => some (if t.isZero then .nothing else t)
  | .side false _ => none

/-- A position in few terms. -/
def terms (p : Position) : List Term :=
  let across := placeTerms "left" "right" p.across
  let down := placeTerms "top" "bottom" p.down
  match p.across, p.down with
  | .side false (some _), .offset t => across ++ [.ofWord "top", t]
  | .side near none, .side top none => [ofSide near, ofSide top]
  | _, _ =>
    if (p.across matches .side false (some _)) && isCenter p.down then
      across ++ [.ofWord "center"]
    else if (p.across matches .offset _) && (p.down matches .side false (some _)) then
      .ofWord "left" :: across ++ down
    else if isCenter p.across && isCenter p.down then across
    else if isCenter p.down && (p.across matches .offset _) then across
    else
      match p.across, p.down with
      | .side near none, down' =>
        if isCenter down' then [ofSide near] else both across down
      | across', .side _ none =>
        if isCenter across' then down else both across down
      | _, _ => both across down
where
  /-- Distances for both places, or sides if one of them has no distance. -/
  both (across down : List Term) : List Term :=
    match distance? p.across, distance? p.down with
    | some x, some y => [x, y]
    | _, _ => across ++ down

/-- Whether a place is the side that is counted from. -/
def isStart : Place1 → Bool
  | .center => false
  | .offset t => t.isZero
  | .side near distance => near && distance.all Term.isZero

/-- Whether a position is the corner that is counted from. -/
def isCorner (p : Position) : Bool := isStart p.across && isStart p.down

end Position

end OneFile.Style
