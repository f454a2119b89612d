import OneFile.Style.Piece
import OneFile.Style.Selector
import OneFile.Style.Selector.Pseudo

/-!
# Writing selectors

## Main definitions

* `OneFile.Style.Selector.write`
* `OneFile.Style.Selector.writeList`
-/

namespace OneFile.Style

/-! ### Parts of components -/

/-- A combinator, with the blanks around it. -/
def Combinator.write : Combinator → Text
  | .descendant => [' ']
  | .child => " > ".toList
  | .nextSibling => " + ".toList
  | .laterSibling => " ~ ".toList
  | .pseudoElement | .part | .slotAssignment => []

/-- The mark of a namespace before a name. -/
def Namespace.write : Namespace → Text
  | .any => ['*', '|']
  | .none => ['|']
  | .named label => writeIdent label ++ ['|']

/-- The name of view transitions. -/
def TransitionName.write : TransitionName → Text
  | .any => ['*']
  | .named label => writeIdent label

/-- The test of an attribute's value. -/
def AttributeTest.write (t : AttributeTest) : Text :=
  t.operator.toList ++ '=' :: writeString t.value ++
    match t.caseRule with
    | .unstated => []
    | .ignored => [' ', 'i']
    | .respected => [' ', 's']

/-- The name of the pseudo-class that counts siblings. -/
def NthKind.name : NthKind → String
  | .child => "nth-child"
  | .lastChild => "nth-last-child"
  | .ofType => "nth-of-type"
  | .lastOfType => "nth-last-of-type"
  | .column => "nth-col"
  | .lastColumn => "nth-last-col"

/-- A whole number. -/
def writeInt (n : Int) : Text := if n < 0 then '-' :: Text.ofNat n.natAbs else Text.ofNat n.natAbs

/-- Every `a`-th from the `b`-th on, in the shortest way. -/
def writeNth (a b : Int) : Text :=
  let signed (n : Int) : Text := if n < 0 then writeInt n else '+' :: writeInt n
  let times : Text := if a = 1 then ['n'] else if a = -1 then ['-', 'n'] else writeInt a ++ ['n']
  if a = 0 then writeInt b
  else if b = 0 then times
  else if a = 2 ∧ b = 1 then "odd".toList
  else times ++ signed b

/-- The name of the pseudo-class with selectors in parentheses. -/
def Matching.name : Matching → Text
  | .is => "is".toList
  | .where => "where".toList
  | .not => "not".toList
  | .has => "has".toList
  | .any vendor => '-' :: (vendor ++ "-any".toList)

mutual

/-- Nodes as they were written, with strings and names in their own way. -/
def writeNode : Node → Text
  | .leaf token raw =>
    match token with
    | .blank | .comment => raw
    | .number n => writeNumeral n n.value
    | .dimension n unit => writeNumeral n n.value ++ writeUnit unit
    | _ => Piece.writeToken token
  | .block o _ children _ => Piece.writeOpening o ++ writeNodes children ++ [o.closer]

/-- Nodes as they are written. -/
def writeNodes : List Node → Text
  | [] => []
  | n :: ns => writeNode n ++ writeNodes ns

end

/-- The colons before a pseudo-element. -/
def pseudoElementMark (name : Text) : Text :=
  if Keyword.isAmong Pseudo.oldElementNames name then [':'] else [':', ':']

/-! ### Compounds -/

/-- A component with the text that it is written as. -/
abbrev Written := Component × Text

/-- The components up to each combinator, and the combinators between them. -/
def splitCompounds : List Written → List (List Written) × List Combinator
  | [] => ([[]], [])
  | w :: ws =>
    let (compounds, combinators) := splitCompounds ws
    match w.1 with
    | .combinator c => ([] :: compounds, c :: combinators)
    | _ =>
      match compounds with
      | [] => ([[w]], combinators)
      | compound :: rest => ((w :: compound) :: rest, combinators)

/-- The components of a compound. An element of any name is not written where something else is,
unless a namespace comes before it. -/
def writeCompound (isFirst : Bool) (next : Option Combinator) (compound : List Written) : Text :=
  let body := match compound with
    | (.nesting, _) :: rest => if isFirst then rest else compound
    | _ => compound
  let hasNamespace : Bool := match body with
    | (.inNamespace _, _) :: _ => true
    | _ => false
  let joinsElement : Bool := next == some .pseudoElement || next == some .slotAssignment
  let alone : Bool := match (if hasNamespace then body.drop 1 else body) with
    | [(.universal, _)] => true
    | _ => false
  if hasNamespace || (alone && !joinsElement) then compound.flatMap Prod.snd
  else (compound.filter fun w => !(w.1 matches .universal)).flatMap Prod.snd

/-- Compounds with the combinators between them. Where selectors are `relative`, the element that
they are relative to is not written. -/
def writeCompounds (relative isFirst : Bool) : List (List Written) → List Combinator → Text
  | [], _ => []
  | compound :: rest, combinators =>
    let next := combinators.head?
    let after := next.elim [] Combinator.write
    match compound with
    | [] => writeCompounds relative isFirst rest combinators
    | (c, _) :: others =>
      if relative && c.isScope then
        if others.isEmpty then after ++ writeCompounds false isFirst rest combinators.tail
        else
          let next' := combinators.tail.head?
          after ++ writeCompound isFirst next' others ++ next'.elim [] Combinator.write
            ++ writeCompounds false false rest combinators.tail.tail
      else
        writeCompound isFirst next compound ++ after
          ++ writeCompounds relative false rest combinators.tail

/-- A selector whose components are written already. -/
def writeWritten (relative : Bool) (ws : List Written) : Text :=
  let (compounds, combinators) := splitCompounds ws
  writeCompounds relative true compounds combinators

/-- Whether the selector is a single compound that says nothing of the kind of the element. -/
def isUntyped : Selector → Bool
  | [] => true
  | c :: cs => !c.isType && (c :: cs).all fun d => d.combinator?.isNone

/-- Texts with commas between them. -/
def joinCommas (parts : List Text) : Text := ", ".toList.intercalate parts

/-! ### Selectors -/

mutual

/-- A component. -/
def Component.write : Component → Text
  | .combinator c => c.write
  | .nesting => ['&']
  | .inNamespace ns => ns.write
  | .universal => ['*']
  | .tag name => writeIdent name
  | .id name => '#' :: writeIdent name
  | .class name => '.' :: writeIdent name
  | .attribute ns name test =>
    '[' :: (ns.elim [] Namespace.write ++ writeIdent name ++ test.elim [] AttributeTest.write
      ++ [']'])
  | .pseudoClass name => ':' :: name
  | .pseudoFunction name arguments => ':' :: (name ++ '(' :: writeNodes arguments ++ [')'])
  | .lang names => ":lang(".toList ++ joinCommas (names.map writeIdent) ++ [')']
  | .dir direction => ":dir(".toList ++ direction ++ [')']
  | .nth kind a b none => ':' :: (kind.name.toList ++ '(' :: writeNth a b ++ [')'])
  | .nth kind a b (some among) =>
    ':' :: (kind.name.toList ++ '(' :: writeNth a b ++ " of ".toList
      ++ joinCommas (writeEach false among) ++ [')'])
  | .matching m selectors =>
    let written := writeEach (m matches .has) selectors
    let unwraps := (m matches .is) && match selectors with
      | [s] => isUntyped s
      | _ => false
    if unwraps then written.flatten
    else ':' :: (m.name ++ '(' :: joinCommas written ++ [')'])
  | .host [] => ":host".toList
  | .host selector => ":host(".toList ++ writeWritten false (writeComponents selector) ++ [')']
  | .slotted selector =>
    "::slotted(".toList ++ writeWritten false (writeComponents selector) ++ [')']
  | .part names => "::part(".toList ++ [' '].intercalate (names.map writeIdent) ++ [')']
  | .pseudoElement name => pseudoElementMark name ++ name
  | .cue name selector =>
    ':' :: ':' :: (name ++ '(' :: writeWritten false (writeComponents selector) ++ [')'])
  | .transition name label classes =>
    ':' :: ':' :: (name ++ '(' :: label.elim [] TransitionName.write ++
      classes.flatMap (fun c => '.' :: writeIdent c) ++ [')'])
  | .pseudoElementFunction name arguments =>
    ':' :: ':' :: (name ++ '(' :: writeNodes arguments ++ [')'])

/-- Components, each with what it is written as. -/
def writeComponents : List Component → List Written
  | [] => []
  | c :: cs => (c, c.write) :: writeComponents cs

/-- Selectors, each on its own. -/
def writeEach (relative : Bool) : List (List Component) → List Text
  | [] => []
  | s :: ss => writeWritten relative (writeComponents s) :: writeEach relative ss

end

namespace Selector

/-- A selector. -/
def write (s : Selector) : Text := writeWritten false (writeComponents s)

/-- Selectors with commas between them. -/
def writeList (ss : List Selector) : Text := joinCommas (ss.map write)

end Selector

end OneFile.Style
