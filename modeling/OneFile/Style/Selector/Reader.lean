import OneFile.Style.Selector
import OneFile.Style.Selector.Nth
import OneFile.Style.Selector.Pseudo

/-!
# Reading selectors

What may come next in a selector depends on the pseudo-elements before it. A selector in
parentheses is read in the place that it is in.

## Main definitions

* `OneFile.Style.Place` — what restricts the rest of a selector.
* `OneFile.Style.Selector.readList` — selectors with commas between them.
* `OneFile.Style.Selector.readNested` — the same, in a style rule.
-/

namespace OneFile.Style

open Reading

/-- What restricts the rest of a selector. -/
structure Place where
  afterPart : Bool := false
  afterSlotted : Bool := false
  /-- Whether there is a pseudo-element that is known. -/
  afterElement : Bool := false
  afterScrollbar : Bool := false
  afterTransition : Bool := false
  /-- Whether pseudo-elements are ruled out. -/
  noElements : Bool := false
  noCombinators : Bool := false
deriving DecidableEq, Repr

/-- Whether the selector is about a pseudo-element, a part or an element in a slot. -/
def Place.afterAny (p : Place) : Bool := p.afterPart || p.afterSlotted || p.afterElement

/-- The place of a single compound in parentheses. -/
def Place.compoundOnly (p : Place) : Place := { p with noElements := true, noCombinators := true }

namespace Selector

/-- What reads a selector in parentheses; the flag tells whether it may start with a combinator. -/
abbrev Inner := Place → Bool → Reading (List Component)

/-! ### Names -/

/-- A delimiter right after what came before. -/
def adjacentDelim (c : Char) : Reading Unit := do
  let .leaf (.delim c') _ ← adjacent | failure
  guard (c = c')

/-- A name right after what came before. -/
def adjacentIdent : Reading Text := do
  let .leaf (.ident name) _ ← adjacent | failure
  return name

/-- A name after the bar of a namespace; `none` is a star, which no attribute has for a name. -/
def localName (ofAttribute : Bool) : Reading (Option Text) := do
  match ← adjacent with
  | .leaf (.ident name) _ => return some name
  | .leaf (.delim '*') _ => if ofAttribute then failure else return none
  | _ => failure

/-- A name that may have a namespace. -/
def qualifiedName (ofAttribute : Bool) : Reading (Option Namespace × Option Text) := do
  match ← adjacent with
  | .leaf (.ident name) _ =>
    if ← passes (adjacentDelim '|') then return (some (.named name), ← localName ofAttribute)
    else return (none, some name)
  | .leaf (.delim '*') _ =>
    if ← passes (adjacentDelim '|') then return (some .any, ← localName ofAttribute)
    else if ofAttribute then failure
    else return (none, none)
  | .leaf (.delim '|') _ => return (some .none, ← localName ofAttribute)
  | _ => failure

/-- The kind of an element. -/
def typeComponents (p : Place) : Reading (List Component) := do
  guard !p.afterAny
  let (ns, name) ← qualifiedName false
  return ns.toList.map .inNamespace ++ [name.elim .universal .tag]

/-! ### Attributes -/

/-- The name or string that an attribute is compared with. -/
def attributeValue : Reading Text := ident <|> string

/-- Whether the case of an attribute's value matters. -/
def caseRule : Reading CaseRule := do
  if ← atEnd then return .unstated
  match String.ofList (← keyword) with
  | "i" => return .ignored
  | "s" => return .respected
  | _ => failure

/-- What the value of an attribute has to be like. -/
def attributeTest : Reading AttributeTest := do
  match ← node with
  | .leaf (.delim '=') _ => return ⟨none, ← attributeValue, ← caseRule⟩
  | .leaf (.compare c) _ => return ⟨some c, ← attributeValue, ← caseRule⟩
  | _ => failure

/-- What is between the brackets of an attribute. -/
def attributeBody : Reading Component := do
  skipGaps
  let (ns, name) ← qualifiedName true
  let some name := name | failure
  let ns := if ns = some .none then none else ns
  if ← atEnd then return .attribute ns name none
  return .attribute ns name (some (← attributeTest))

/-! ### Pseudo-classes -/

/-- A pseudo-class without parentheses. -/
def pseudoClass (p : Place) (name : Text) : Reading Component := do
  guard !p.afterSlotted
  if !p.afterAny && Keyword.isAmong Pseudo.structuralNames name then
    return .pseudoClass (Text.lower name)
  if p.afterTransition && Keyword.isAmong ["only-child"] name then
    return .pseudoClass (Text.lower name)
  if p.afterScrollbar then
    guard (Keyword.isAmong (Pseudo.scrollbarStates ++ Pseudo.sharedStates) name)
  else if p.afterElement then
    guard (Keyword.isAmong Pseudo.actionNames name)
  else
    guard !(Keyword.isAmong Pseudo.scrollbarStates name)
  return .pseudoClass ((Keyword.fold? Pseudo.classNames name).getD name)

/-- Selectors that are all valid. -/
def strictList (inner : Reading (List Component)) (ns : List Node) :
    Option (List (List Component)) :=
  (splitAtCommas ns).mapM inner.all

/-- The valid ones of some selectors. -/
def forgivingList (inner : Reading (List Component)) (ns : List Node) : List (List Component) :=
  (splitAtCommas ns).filterMap inner.all

/-- What is between the parentheses of a pseudo-class that counts siblings. -/
def nthBody (inner : Inner) (p : Place) (kind : NthKind) : Reading Component := do
  let (a, b) ← Nth.read
  if (kind = .child ∨ kind = .lastChild) && (← passes (word "of")) then
    return .nth kind a b (some (forgivingList (inner { p with noElements := true } false) (← rest)))
  return .nth kind a b none

/-- The languages between the parentheses of a pseudo-class. -/
def languages : Reading Component := return .lang (← commaSeparated (ident <|> string))

/-- A pseudo-class with what is between its parentheses. -/
def pseudoFunction (inner : Inner) (p : Place) (name : Text) (ns : List Node) :
    Option Component := do
  let among (m : Matching) : Component :=
    .matching m (forgivingList (inner { p with noElements := true } false) ns)
  let counting (kind : NthKind) : Option Component := do
    guard !p.afterAny
    (nthBody inner p kind).all ns
  match String.ofList (Text.lower name) with
  | "nth-child" => counting .child
  | "nth-last-child" => counting .lastChild
  | "nth-of-type" => counting .ofType
  | "nth-last-of-type" => counting .lastOfType
  | "nth-col" => counting .column
  | "nth-last-col" => counting .lastColumn
  | "is" => return among .is
  | "where" => return among .where
  | "-webkit-any" => return among (.any "webkit".toList)
  | "-moz-any" => return among (.any "moz".toList)
  | "has" => return .matching .has (forgivingList (inner p true) ns)
  | "not" =>
    return .matching .not (← strictList (inner { p with noElements := true } false) ns)
  | "host" =>
    guard !p.afterAny
    return .host (← (inner p.compoundOnly false).all ns)
  | "lang" =>
    guard !p.afterAny
    languages.all ns
  | "dir" =>
    guard !p.afterAny
    return .dir (← (oneOf ["ltr", "rtl"]).all ns)
  | _ =>
    guard (!p.afterAny && !Node.hasBadList ns)
    return .pseudoFunction name ns

/-! ### Pseudo-elements -/

/-- A pseudo-element, joined to the element before it. -/
def joined (c : Component) : List Component := [.combinator .pseudoElement, c]

/-- The place after a pseudo-element that is known. -/
def afterKnown (p : Place) (name : Text) : Place :=
  { p with
    afterElement := true
    afterScrollbar := p.afterScrollbar || Keyword.isAmong Pseudo.scrollbarElements name
    afterTransition := p.afterTransition ||
      Keyword.isAmong ("view-transition" :: Pseudo.transitionElements) name }

/-- A pseudo-element without parentheses. -/
def pseudoElement (p : Place) (name : Text) : Option (List Component × Place) := do
  guard (!p.afterElement && !p.noElements)
  guard (!p.afterSlotted || Keyword.isAmong Pseudo.slottedElements name)
  match Keyword.fold? Pseudo.elementNames name with
  | some lower => return (joined (.pseudoElement lower), afterKnown p name)
  | none => return ([.pseudoElement name], p)

/-- The classes of view transitions, each after a dot. -/
def transitionClasses : Reading (List Text) := do
  let classes ← many do
    adjacentDelim '.'
    adjacentIdent
  guard (← get).isEmpty
  return classes

/-- The name of view transitions. -/
def transitionName : Reading TransitionName := do
  if ← passes (delim '*') then return .any
  return .named (← authorName)

/-- What is between the parentheses of a pseudo-element of view transitions. -/
def transitionBody (name : Text) : Reading Component := do
  skipGaps
  let label ← attempt transitionName
  return .transition name label (← transitionClasses)

/-- A pseudo-element with what is between its parentheses. -/
def pseudoElementFunction (inner : Inner) (p : Place) (name : Text) (ns : List Node) :
    Option (List Component × Place) := do
  guard (!p.afterElement && !p.noElements)
  let lower := Text.lower name
  match String.ofList lower with
  | "part" =>
    guard !p.afterAny
    let names ← (many ident).all ns
    guard !names.isEmpty
    return ([.combinator .part, .part names], { p with afterPart := true })
  | "slotted" =>
    guard !p.afterAny
    let selector ← (inner p.compoundOnly false).all ns
    return ([.combinator .slotAssignment, .slotted selector], { p with afterSlotted := true })
  | _ =>
    guard !p.afterSlotted
    if Keyword.isAmong ["cue", "cue-region"] name then
      return (joined (.cue lower (← (inner {} false).all ns)), afterKnown p name)
    else if Keyword.isAmong ["picker"] name then
      let label ← ident.all ns
      return (joined (.pseudoElementFunction lower [.leaf (.ident label) label]), afterKnown p name)
    else if Keyword.isAmong Pseudo.transitionElements name then
      return (joined (← (transitionBody lower).all ns), afterKnown p name)
    else
      guard !(Node.hasBadList ns)
      return ([.pseudoElementFunction name ns], p)

/-- What follows a colon. -/
def pseudo (inner : Inner) (p : Place) : Reading (List Component × Place) := do
  let isColon : Node → Bool := fun n => n matches .leaf .colon _
  let first ← adjacent
  let double := isColon first
  let n ← if double then adjacent else pure first
  let ofElement (name : Text) : Bool := double || Keyword.isAmong Pseudo.oldElementNames name
  match n with
  | .leaf (.ident name) _ =>
    if ofElement name then (pseudoElement p name : Option _)
    else return ([← pseudoClass p name], p)
  | .block (.call name) _ children _ =>
    if ofElement name then (pseudoElementFunction inner p name children : Option _)
    else return ([← (pseudoFunction inner p name children : Option _)], p)
  | _ => failure

/-! ### Compounds -/

/-- A simple selector, and what it leads to. -/
def simple (inner : Inner) (p : Place) : Reading (List Component × Place) := do
  match ← adjacent with
  | .leaf (.delim '&') _ => return ([.nesting], p)
  | .leaf (.hash name true) _ =>
    guard !p.afterAny
    return ([.id name], p)
  | .leaf (.delim '.') _ =>
    guard !p.afterAny
    return ([.class (← adjacentIdent)], p)
  | .block .bracket _ children _ =>
    guard !p.afterAny
    return ([← (attributeBody.all children : Option _)], p)
  | .leaf .colon _ => pseudo inner p
  | _ => failure

/-- Simple selectors, as many as there are, at most `fuel`. -/
def simples (inner : Inner) : Nat → Place → Reading (List Component × Place)
  | 0, p => return ([], p)
  | fuel + 1, p => do
    match ← attempt (simple inner p) with
    | none => return ([], p)
    | some (cs, p') =>
      let (others, p'') ← simples inner fuel p'
      return (cs ++ others, p'')

/-- A compound: what a single element has to be like. -/
def compound (inner : Inner) (p : Place) : Reading (List Component × Place) := do
  skipGaps
  let nested ← passes (adjacentDelim '&')
  let type ← attempt (typeComponents p)
  let (others, p') ← simples inner (← get).length p
  let cs := (if nested then [.nesting] else []) ++ type.getD [] ++ others
  guard !cs.isEmpty
  return (cs, p')

/-! ### Selectors -/

/-- The combinator that a delimiter stands for. -/
def combinatorOf? (n : Node) : Option Combinator :=
  match n with
  | .leaf (.delim '>') _ => some .child
  | .leaf (.delim '+') _ => some .nextSibling
  | .leaf (.delim '~') _ => some .laterSibling
  | _ => none

/-- The combinator before another compound. Blanks are one, unless nothing follows them. -/
def combinator : Reading (Option Combinator) := fun ns =>
  match Node.skipGaps ns with
  | [] => some (none, ns)
  | n :: others =>
    match combinatorOf? n with
    | some c => some (some c, others)
    | none =>
      if (ns.takeWhile Node.isGap).any fun g => g matches .leaf .blank _ then
        some (some .descendant, n :: others)
      else some (none, ns)

/-- Compounds with combinators between them, at most `fuel`. No other compound comes after a
pseudo-element. -/
def compounds (inner : Inner) : Nat → Place → Reading (List Component)
  | 0, _ => failure
  | fuel + 1, p => do
    let (cs, p') ← compound inner p
    if p'.afterAny then return cs
    match ← combinator with
    | none => return cs
    | some c =>
      guard !p'.noCombinators
      return cs ++ .combinator c :: (← compounds inner fuel p')

/-- A selector. -/
def selector (inner : Inner) (p : Place) : Reading (List Component) := do
  compounds inner ((← get).length + 1) p

/-- A selector that may start with a combinator, which relates it to `start`. -/
def relativeSelector (start : Component) (inner : Inner) (p : Place) :
    Reading (Bool × List Component) := do
  match ← attempt (accept combinatorOf?) with
  | some c => return (true, start :: .combinator c :: (← selector inner p))
  | none => return (false, ← selector inner p)

/-- A selector in parentheses that are nested at most `depth` deep. -/
def innerSelector : Nat → Inner
  | 0, _, _ => failure
  | depth + 1, p, relative =>
    if relative then Prod.snd <$> relativeSelector .scope (innerSelector depth) p
    else selector (innerSelector depth) p

/-- Selectors with commas between them. -/
def readList (ns : List Node) : Option (List Selector) :=
  strictList (selector (innerSelector (Node.depthList ns)) {}) ns

/-- Selectors with commas between them, each of which may start with a combinator. -/
def readRelative (ns : List Node) : Option (List Selector) :=
  strictList (Prod.snd <$> relativeSelector .scope (innerSelector (Node.depthList ns)) {}) ns

/-- A selector in a style rule. One that does not name what the rule around it selects is about the
descendants of that. -/
def nestedSelector (inner : Inner) : Reading (List Component) := do
  let (related, cs) ← relativeSelector .nesting inner {}
  if related || Component.listMentionsNesting cs then return cs
  return .nesting :: .combinator .descendant :: cs

/-- Selectors in a style rule, with commas between them. -/
def readNested (ns : List Node) : Option (List Selector) :=
  strictList (nestedSelector (innerSelector (Node.depthList ns))) ns

end Selector

end OneFile.Style
