import OneFile.Style.Property.Border
import OneFile.Style.Value.Position

/-!
# Properties of motion

Transitions, animations and transformations.

## Main definitions

* `OneFile.Style.Property.motion`
-/

namespace OneFile.Style.Property

open Reading Value

/-! ### Easing -/

/-- The curves that have names. -/
def namedCurves : List (String × List Rat) := [
  ("ease", [1 / 4, 1 / 10, 1 / 4, 1]),
  ("ease-in", [42 / 100, 0, 1, 1]),
  ("ease-out", [0, 0, 58 / 100, 1]),
  ("ease-in-out", [42 / 100, 0, 58 / 100, 1])]

/-- A curve by its four numbers; by name, if it has one. -/
def cubicBezier : Reading Term := do
  let four ← call "cubic-bezier" do
    let a ← Term.numberValue
    comma
    let b ← Term.numberValue
    comma
    let c ← Term.numberValue
    comma
    let d ← Term.numberValue
    return [a, b, c, d]
  match namedCurves.find? fun entry => entry.2.map Single.nearest = four with
  | some (curve, _) => return .ofWord curve
  | none => return .call "cubic-bezier".toList (four.map fun q => [.number q])

/-- A number of steps, and where the first of them is. -/
def steps : Reading Term := do
  let (count, place) ← call "steps" do
    let count ← Term.integer
    if ← passes comma then return (count, ← oneOf ["jump-start", "jump-end", "jump-none",
      "jump-both", "start", "end"])
    else return (count, "end".toList)
  let place := match String.ofList place with
    | "jump-start" => "start".toList
    | "jump-end" => "end".toList
    | _ => place
  let isOne := count.same (.number 1)
  if isOne && place = "start".toList then return .ofWord "step-start"
  if isOne && place = "end".toList then return .ofWord "step-end"
  return .call "steps".toList ([count] :: if place = "end".toList then [] else [[.word place]])

/-- The names of easings. -/
def easingWords : List String :=
  ["linear", "ease", "ease-in", "ease-out", "ease-in-out", "step-start", "step-end"]

/-- How a change goes on in time. -/
def easing : Reading Term := Term.oneWord easingWords <|> cubicBezier <|> steps

/-! ### Transitions -/

/-- What makes the name of a property. -/
abbrev FoldName := Text → Text

/-- The name of a property. -/
def propertyName (fold : FoldName) : Reading Term := Term.name <$> (fold <$> ident)

/-- Whether a term is a duration that is not given or nothing. -/
def isInstant (t : Option Term) : Bool := t.all Term.isZero

/-- No duration. -/
def instant : Term := .amount ⟨0, .time true⟩

/-- A transition: its property, duration, easing and delay. -/
def transitionTerms (fold : FoldName) : Reading (List Term) := do
  let found ← anyOrder [Term.time, easing, Term.time, propertyName fold]
  guard (found.any Option.isSome)
  match found with
  | [duration, curve, delay, changed] =>
    return changed.getD (.ofWord "all")
      :: (if isInstant duration && isInstant delay then [] else [duration.getD instant])
      ++ (curve.filter fun t => !t.isWord "ease").toList
      ++ (if isInstant delay then [] else delay.toList)
  | _ => failure

/-! ### Animations -/

/-- How many times an animation runs. -/
def iterationCount : Reading Term := Term.oneWord ["infinite"] <|> Term.anyNumber

/-- The names of directions of an animation. -/
def animationDirections : List String := ["normal", "reverse", "alternate", "alternate-reverse"]

/-- The names of what holds before and after an animation. -/
def fillModes : List String := ["none", "forwards", "backwards", "both"]

/-- The names of states of an animation. -/
def playStates : List String := ["running", "paused"]

/-- A name of an animation that a string gives. It is written without quotes, unless it means
something else then. -/
def quotedName (s : Text) : Term :=
  if Keyword.isAmong ("none" :: Keyword.universal) s then .string s
  else .name s

/-- The name of an animation. -/
def animationName : Reading Term :=
  Term.oneWord ["none"] <|> Term.customName <|> (quotedName <$> string)

/-- An animation: all its parts, in any order. A part whose usual form is left out is written after
all if the name could be taken for it. -/
def animationTerms : Reading (List Term) := do
  let found ← anyOrder [Term.time, easing, Term.time, iterationCount,
    Term.oneWord animationDirections, Term.oneWord fillModes, Term.oneWord playStates,
    animationName]
  guard (found.any Option.isSome)
  match found with
  | [duration, curve, delay, count, direction, filling, play, label] =>
    let label := label.getD (.ofWord "none")
    if label.isWord "none" then return [label]
    let named (names : List String) : Bool :=
      match label with
      | .name n | .string n => Keyword.isAmong names n
      | _ => false
    let part (t : Option Term) (usual : String) (names : List String) : List Term :=
      let t := t.getD (.ofWord usual)
      if t.isWord usual && !named names then [] else [t]
    let count := count.getD (.number 1)
    return (if isInstant duration && isInstant delay then [] else [duration.getD instant])
      ++ part curve "ease" easingWords
      ++ (if isInstant delay then [] else delay.toList)
      ++ (if count.same (.number 1) && !named ["infinite"] then [] else [count])
      ++ part direction "normal" animationDirections
      ++ part filling "none" (fillModes.drop 1)
      ++ part play "running" playStates
      ++ [label]
  | _ => failure

/-! ### Transformations -/

/-- Items in parentheses, each by its own reading, with commas between them. -/
def commaArguments (rs : List (Reading Term)) : Reading (List Term) :=
  match rs with
  | [] => return []
  | [r] => do return [← r]
  | r :: others => do
    let t ← r
    comma
    return t :: (← commaArguments others)

/-- A function of the given arguments. -/
def function (name : String) (rs : List (Reading Term)) : Reading Term := do
  let ts ← call name (commaArguments rs)
  return .call name.toList (ts.map fun t => [t])

/-- A function of one or two arguments, of which the second one is left out if `implied` holds for
it. -/
def oneOrTwo (name : String) (r : Reading Term) (implied : Term → Term → Bool) : Reading Term := do
  let ts ← call name do
    let a ← r
    if ← passes comma then
      let b ← r
      return if implied a b then [a] else [a, b]
    else return [a]
  return .call name.toList (ts.map fun t => [t])

/-- An angle in a transformation, where nothing has no unit. -/
def turn : Reading Term := do
  let t ← Term.angleOrZero
  return if t.isZero then .number 0 else t

/-- A transformation. -/
def transformation : Reading Term :=
  let lp := Term.lengthPercentage
  let n := Term.numberOrPercentage
  as "translateX" (function "translatex" [lp])
    <|> as "translateY" (function "translatey" [lp])
    <|> as "translateZ" (function "translatez" [Term.length])
    <|> oneOrTwo "translate" lp (fun _ b => b.isZero)
    <|> function "translate3d" [lp, lp, Term.length]
    <|> oneOrTwo "scale" n (fun a b => a.same b)
    <|> as "scaleX" (function "scalex" [n])
    <|> as "scaleY" (function "scaley" [n])
    <|> as "scaleZ" (function "scalez" [n])
    <|> function "scale3d" [n, n, n]
    <|> function "rotate" [turn]
    <|> as "rotateX" (function "rotatex" [turn])
    <|> as "rotateY" (function "rotatey" [turn])
    <|> as "rotateZ" (function "rotatez" [turn])
    <|> function "rotate3d" [Term.anyNumber, Term.anyNumber, Term.anyNumber, turn]
    <|> oneOrTwo "skew" turn (fun _ b => b.isZero)
    <|> as "skewX" (function "skewx" [turn])
    <|> as "skewY" (function "skewy" [turn])
    <|> function "perspective" [Term.length]
    <|> function "matrix" (List.replicate 6 Term.anyNumber)
    <|> function "matrix3d" (List.replicate 16 Term.anyNumber)
where
  /-- A function by the name that it is written with. -/
  as (name : String) (r : Reading Term) : Reading Term := do
    match ← r with
    | .call _ arguments => return .call name.toList arguments
    | t => return t

/-- Transformations one after the other. -/
def transform : Grammar := do
  if ← passes (word "none") then return [[.ofWord "none"]]
  let ts ← many transformation
  guard !ts.isEmpty
  return [ts]

/-! ### The list -/

/-- The vendors of animations and transitions. -/
def motionVendors : List String := ["webkit", "moz", "o"]

/-- Properties of motion. -/
def motion (fold : FoldName) : List Property :=
  let position : Grammar := do return [(← Position.read).terms]
  [⟨"transition-property", ["webkit", "moz", "ms"], listOf (propertyName fold)⟩,
  ⟨"transition-duration", ["webkit", "moz", "ms"], listOf Term.time⟩,
  ⟨"transition-delay", ["webkit", "moz", "ms"], listOf Term.time⟩,
  ⟨"transition-timing-function", ["webkit", "moz", "ms"], listOf easing⟩,
  ⟨"transition", ["webkit", "moz", "ms"], list (transitionTerms fold)⟩,
  ⟨"animation-name", motionVendors, listOf animationName⟩,
  ⟨"animation-duration", motionVendors, listOf Term.time⟩,
  ⟨"animation-timing-function", motionVendors, listOf easing⟩,
  ⟨"animation-iteration-count", motionVendors, listOf iterationCount⟩,
  ⟨"animation-direction", motionVendors, listOf (Term.oneWord animationDirections)⟩,
  ⟨"animation-play-state", motionVendors, listOf (Term.oneWord playStates)⟩,
  ⟨"animation-delay", motionVendors, listOf Term.time⟩,
  ⟨"animation-fill-mode", motionVendors, listOf (Term.oneWord fillModes)⟩,
  ⟨"animation-composition", [], listOf (Term.oneWord ["replace", "add", "accumulate"])⟩,
  ⟨"animation", motionVendors, list animationTerms⟩,
  ⟨"transform", ["webkit", "moz", "ms", "o"], transform⟩,
  ⟨"transform-origin", ["webkit", "moz", "ms", "o"], position⟩,
  ⟨"transform-style", ["webkit", "moz"], Value.single (Term.oneWord ["flat", "preserve-3d"])⟩,
  words "transform-box" ["content-box", "border-box", "fill-box", "stroke-box", "view-box"],
  ⟨"backface-visibility", ["webkit", "moz"], Value.single (Term.oneWord ["visible", "hidden"])⟩,
  ⟨"perspective", ["webkit", "moz"], Value.single (Term.oneWord ["none"] <|> Term.length)⟩,
  ⟨"perspective-origin", ["webkit", "moz"], position⟩] ++
  ["animation-timeline", "animation-range-start", "animation-range-end", "animation-range",
    "translate", "rotate", "scale"].map bare

end OneFile.Style.Property
