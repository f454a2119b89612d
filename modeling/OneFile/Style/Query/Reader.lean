import OneFile.Style.Query

/-!
# Reading queries

## Main definitions

* `OneFile.Style.MediaQuery.readList`
* `OneFile.Style.ContainerQuery.read`
-/

namespace OneFile.Style

open Reading

/-! ### Features -/

namespace Feature

/-- What the values of a feature are. -/
inductive Kind where
  | length
  | number
  | integer
  | ratio
  | resolution
  /-- Zero or one. -/
  | switch
  | name
  /-- The feature is not known. -/
  | unknown
deriving DecidableEq, Repr

/-- Whether values can be compared. -/
def Kind.isOrdered (k : Kind) : Bool := k != .switch && k != .name

/-- The features of media that are known. -/
def mediaKinds : List (Kind × List String) := [
  (.length, ["width", "height", "device-width", "device-height"]),
  (.ratio, ["aspect-ratio", "device-aspect-ratio"]),
  (.integer, ["horizontal-viewport-segments", "vertical-viewport-segments", "color", "color-index",
    "monochrome"]),
  (.resolution, ["resolution"]),
  (.switch, ["grid"]),
  (.number, ["-webkit-device-pixel-ratio", "-moz-device-pixel-ratio"]),
  (.name, ["orientation", "overflow-block", "overflow-inline", "display-mode", "scan", "update",
    "environment-blending", "color-gamut", "dynamic-range", "inverted-colors", "pointer", "hover",
    "any-pointer", "any-hover", "nav-controls", "video-color-gamut", "video-dynamic-range",
    "scripting", "prefers-reduced-motion", "prefers-reduced-transparency", "prefers-contrast",
    "forced-colors", "prefers-color-scheme", "prefers-reduced-data"])]

/-- The features of containers that are known. -/
def containerKinds : List (Kind × List String) := [
  (.length, ["width", "height", "inline-size", "block-size"]),
  (.ratio, ["aspect-ratio"]),
  (.name, ["orientation"])]

/-- The features of the state of scrolling that are known. -/
def scrollKinds : List (Kind × List String) := [(.name, ["stuck", "snapped", "scrollable",
  "scrolled"])]

/-- The kind of a feature by its name in lower case. -/
def kindOf? (kinds : List (Kind × List String)) (name : Text) : Option Kind :=
  (kinds.find? fun entry => Keyword.isAmong entry.2 name).map Prod.fst

/-- A text without the given start, in any case. -/
def without? (start : String) (s : Text) : Option Text :=
  if Text.lower (s.take start.length) = start.toList then some (s.drop start.length) else none

/-- The name of a feature, its kind, and the comparison that the name stands for. -/
structure Named where
  name : Text
  kind : Kind
  comparison : Option Comparison

/-- What a name stands for. The mark of a vendor comes before the word for the comparison. -/
def named (kinds : List (Kind × List String)) (s : Text) : Named :=
  if Declaration.isVariable s then ⟨s, .unknown, none⟩
  else
    let (mark, bare) : Text × Text :=
      match without? "-webkit-" s with
      | some bare => ("-webkit-".toList, bare)
      | none => ([], s)
    let (comparison, bare) : Option Comparison × Text :=
      match without? "min-" bare, without? "max-" bare with
      | some bare, _ => (some .greaterEqual, bare)
      | none, some bare => (some .lessEqual, bare)
      | none, none => (none, bare)
    let name := Text.lower (mark ++ bare)
    match kindOf? kinds name with
    | some kind => ⟨name, kind, comparison⟩
    | none => ⟨s, .unknown, none⟩

/-- The name of a feature. -/
def name (kinds : List (Kind × List String)) : Reading Named := named kinds <$> ident

/-- A comparison. -/
def comparison : Reading Comparison := do
  match ← node with
  | .leaf (.delim '=') _ => return .equal
  | .leaf (.delim '>') _ =>
    if ← passes (delim '=') then return .greaterEqual else return .greater
  | .leaf (.delim '<') _ => if ← passes (delim '=') then return .lessEqual else return .less
  | _ => failure

/-- Two numbers with a slash between them. -/
def ratio (needsSlash : Bool) : Reading (List Term) := do
  let a ← Term.numberValue
  if ← passes (delim '/') then
    let b ← Term.numberValue
    return if b = 1 then [.number a] else [.number a, .slash, .number b]
  guard !needsSlash
  return [.number a]

/-- A value of a kind that is known. -/
def knownValue (kind : Kind) : Reading (List Term) :=
  match kind with
  | .length => List.singleton <$> Term.length
  | .number => List.singleton <$> Term.anyNumber
  | .integer => List.singleton <$> Term.integer
  | .ratio => ratio false
  | .resolution => List.singleton <$> Term.resolution
  | .switch => do
    let t ← Term.integer
    guard (t.isZero || t.same (.number 1))
    return [t]
  | .name => (fun n => [.name n]) <$> ident
  | .unknown => failure

/-- A value of a feature that is not known, and its kind. -/
def anyValue : Reading (List Term × Kind) :=
  ((·, .ratio) <$> ratio true) <|>
  ((fun t => ([t], .number)) <$> Term.anyNumber) <|>
  ((fun t => ([t], .length)) <$> Term.length) <|>
  ((fun t => ([t], .resolution)) <$> Term.resolution) <|>
  ((fun n => ([.name n], .name)) <$> ident)

/-- A value of a feature. -/
def value (kind : Kind) : Reading (List Term) :=
  knownValue kind <|> do
    let (ts, found) ← anyValue
    guard (kind = .unknown || found = kind)
    return ts

/-- A feature that its name comes first of. -/
def nameFirst (n : Named) : Reading Feature := do
  if ← passes (token .colon) then
    let v ← value n.kind
    match n.comparison with
    | some c =>
      guard n.kind.isOrdered
      return .compares n.name c v
    | none => return .equals n.name v
  match ← attempt comparison with
  | none =>
    guard (← atEnd)
    return .present n.name
  | some c =>
    guard (n.comparison.isNone && n.kind.isOrdered)
    return .compares n.name c (← value n.kind)

/-- The kind of the first feature that is named. -/
def firstKind? (kinds : List (Kind × List String)) (ns : List Node) : Option Kind :=
  ns.findSome? fun n =>
    match n with
    | .leaf (.ident s) _ => some (named kinds s).kind
    | _ => none

/-- Whether two comparisons go the same way. -/
def sameWay (c d : Comparison) : Bool :=
  let grows (c : Comparison) : Bool := c == .greater || c == .greaterEqual
  c != .equal && d != .equal && grows c == grows d

/-- A feature that a value comes before. -/
def valueFirst (kinds : List (Kind × List String)) : Reading Feature := do
  let some kind := firstKind? kinds (← get) | failure
  let low ← value kind
  let c ← comparison
  let n ← name kinds
  guard (n.comparison.isNone && kind.isOrdered)
  match ← attempt comparison with
  | none => return .compares n.name c.opposite low
  | some d =>
    guard (sameWay c d)
    return .between low c n.name d (← value kind)

/-- A feature. -/
def read (kinds : List (Kind × List String)) : Reading Feature :=
  (do nameFirst (← name kinds)) <|> valueFirst kinds

end Feature

/-! ### Conditions -/

namespace Query

/-- A condition on the values of properties, without one that it is made of. -/
def styleFeature : Reading Query := do
  let n ← ident
  if ← passes (token .colon) then
    let value ← (Declaration.valueOf n (← rest) : Option _)
    return .declaration ⟨Property.fold n, value, false⟩
  return .property (Property.fold n)

/-- The grammar of a condition. -/
structure Rules where
  /-- What a feature is like. -/
  feature : Reading Query
  /-- The conditions that a function stands for. -/
  functions : List (String × Reading Query)

/-- A condition between parentheses or in a function. -/
def group (rules : Rules) (inner : Reading Query) : Reading Query :=
  rules.functions.foldr (fun (f, r) others => call f r <|> others)
    (within .paren inner <|> within .paren rules.feature)

/-- Conditions after the first one, each after the same word, at most `fuel`. -/
def further (rules : Rules) (inner : Reading Query) (joint : String) : Nat → Reading (List Query)
  | 0 => return []
  | fuel + 1 => do
    if ← passes (word joint) then
      let q ← group rules inner
      return q :: (← further rules inner joint fuel)
    return []

/-- A condition, where `inner` is one between parentheses; `allowsAny` tells whether it may be
enough that one of several conditions holds. -/
def condition (rules : Rules) (inner : Reading Query) (allowsAny : Bool) : Reading Query := do
  if ← passes (word "not") then return .not (← group rules inner)
  let first ← group rules inner
  let fuel := (← get).length
  match ← further rules inner "and" fuel with
  | [] =>
    if allowsAny then
      match ← further rules inner "or" fuel with
      | [] => return first
      | qs => return .combination false (first :: qs)
    return first
  | qs => return .combination true (first :: qs)

/-- A condition with parentheses that are nested at most `depth` deep. -/
def nested (rules : Rules) : Nat → Reading Query
  | 0 => failure
  | depth + 1 => condition rules (nested rules depth) true

/-- A condition. -/
def read (rules : Rules) (allowsAny : Bool) : Reading Query := do
  condition rules (nested rules (Node.depthList (← get))) allowsAny

/-- The conditions on features of some kinds. -/
def featureRules (kinds : List (Feature.Kind × List String)) : Rules :=
  ⟨.feature <$> Feature.read kinds, []⟩

/-- The conditions on the values of properties. -/
def styleRules : Rules := ⟨styleFeature, []⟩

/-- The conditions on containers. -/
def containerRules : Rules :=
  ⟨.feature <$> Feature.read Feature.containerKinds, [
    ("style", .style <$> (read styleRules true <|> styleFeature)),
    ("scroll-state", .scrollState <$> (read (featureRules Feature.scrollKinds) true
      <|> .feature <$> Feature.read Feature.scrollKinds))]⟩

end Query

/-! ### Queries -/

namespace MediaQuery

/-- A qualifier and a medium. -/
def mediumPart : Reading (Option Text × Text) := do
  let qualifier ← attempt (oneOf ["only", "not"])
  let medium ← authorName
  return (qualifier, medium)

/-- A query of a medium. -/
def read : Reading MediaQuery := do
  let rules := Query.featureRules Feature.mediaKinds
  match ← attempt mediumPart with
  | none => return ⟨none, none, some (← Query.read rules true)⟩
  | some (qualifier, medium) =>
    let condition ← if ← passes (word "and") then some <$> Query.read rules false else pure none
    let known := Keyword.isAmong ["all", "print", "screen"] medium
    let medium := if known then Text.lower medium else medium
    return ⟨qualifier, if medium = "all".toList then none else some medium, condition⟩

/-- Queries with commas between them, or nothing. -/
def readList : Reading (List MediaQuery) := do
  if ← atEnd then return []
  commaSeparated read

end MediaQuery

namespace ContainerQuery

/-- The name of a container. -/
def containerName : Reading Text := do
  let n ← authorName
  guard !(Keyword.isAmong ["none", "and", "not", "or"] n)
  return n

/-- A query of a container. -/
def read : Reading ContainerQuery := do
  let name ← attempt containerName
  match ← attempt (Query.read Query.containerRules true) with
  | some q => return ⟨name, some q⟩
  | none =>
    guard (name.isSome && (← atEnd))
    return ⟨name, none⟩

end ContainerQuery

end OneFile.Style
