import OneFile.Style.Color
import OneFile.Style.Quoted

/-!
# Pieces

What no grammar is known for, or does not follow its grammar, is kept as a list of pieces: tokens
with a single blank wherever there were blanks between them that mean something. Colors, lengths
and times among them are written in their own way all the same.

## Main definitions

* `OneFile.Style.writeNumber`, `OneFile.Style.writeDimension`, `OneFile.Style.writePercentage`
* `OneFile.Style.Piece`
* `OneFile.Style.Piece.ofNodes` — the pieces of nodes.
* `OneFile.Style.Piece.writeAll`
-/

namespace OneFile.Style

/-! ### Numbers with units -/

/-- A number as it is written after a sign that it was given with. -/
def writeNumeral (n : Numeral) (value : Rat) : Text :=
  let sign : Text := if n.signed ∧ 0 ≤ value then ['+'] else []
  let s := Single.toText value
  let point : Text :=
    if !n.whole && value.den == 1 && !(s.contains '.' || s.contains 'e') then ".0".toList else []
  sign ++ s ++ point

/-- A number, without a zero before its decimal point. -/
def writeNumber (q : Rat) : Text := Single.toShortText q

/-- A unit. One that could be taken for an exponent is written with an escape. -/
def writeUnit (unit : Text) : Text :=
  match unit with
  | ['e'] | ['E'] | 'e' :: '-' :: _ | 'E' :: '-' :: _ => "\\65 ".toList ++ writeName (unit.drop 1)
  | _ => writeIdent unit

/-- A number and its unit. -/
def writeDimension (q : Rat) (unit : Text) : Text := Single.toShortText q ++ writeUnit unit

/-- A part of one as a percentage. The zero before a decimal point is left out only if the
percentage is less than one. -/
def writePercentage (q : Rat) : Text :=
  Single.toShortText (Single.nearest (q * 100)) ++ ['%']

/-- A duration, in seconds or milliseconds, whichever is shorter. -/
def writeTime (q : Rat) (inSeconds : Bool) : Text :=
  let seconds (q : Rat) : Text := writeNumber q ++ ['s']
  let milliseconds (q : Rat) : Text := writeNumber q ++ ['m', 's']
  if inSeconds then
    if 0 < q ∧ q < 1 / 10 then milliseconds (Single.nearest (q * 1000)) else seconds q
  else
    if q = 0 ∨ 100 ≤ q then seconds (Single.nearest (q / 1000)) else milliseconds q

/-- The units of lengths. -/
def lengthUnits : List String := [
  "px", "in", "cm", "mm", "q", "pt", "pc", "em", "rem", "ex", "rex", "ch", "rch", "cap", "rcap",
  "ic", "ric", "lh", "rlh", "vw", "lvw", "svw", "dvw", "cqw", "vh", "lvh", "svh", "dvh", "cqh",
  "vi", "svi", "lvi", "dvi", "cqi", "vb", "svb", "lvb", "dvb", "cqb", "vmin", "svmin", "lvmin",
  "dvmin", "cqmin", "vmax", "svmax", "lvmax", "dvmax", "cqmax"]

/-- A number with a unit, in the way that the unit is written: units that are known are in lower
case. -/
def writeKnownDimension (q : Rat) (unit : Text) : Text :=
  let lower := Text.lower unit
  match String.ofList lower with
  | "s" => writeTime q true
  | "ms" => writeTime q false
  | "deg" | "grad" | "rad" | "turn" | "dpi" | "dpcm" => writeDimension q lower
  | "dppx" | "x" => writeDimension q ['x']
  | s => writeDimension q (if lengthUnits.contains s then lower else unit)

/-! ### Pieces -/

/-- A piece of a value. -/
inductive Piece where
  | blank
  | token (t : Token)
  | color (c : Color)
  | url (content : Text)
  /-- A function of its arguments. -/
  | call (name : Text) (arguments : List Piece)
  /-- The value of a variable, perhaps with another one to take instead. -/
  | reference (name : Text) (fallback : Option (List Piece))
deriving Repr

namespace Piece

/-- Whether a piece is a blank. -/
def isBlank (p : Piece) : Bool := p matches .blank

/-- The pieces without a blank at either end, unless a blank is all there is. -/
def trim (ps : List Piece) : List Piece :=
  match ps with
  | [] | [_] => ps
  | p :: rest =>
    let ps := if p.isBlank then rest else ps
    match ps.reverse with
    | q :: before => if q.isBlank then before.reverse else ps
    | [] => ps

/-- The pieces read so far, in reverse. -/
structure Progress where
  pieces : List Piece
  /-- Whether blanks after the last piece mean nothing. -/
  afterDelim : Bool
  afterBlank : Bool

/-- Adds a piece after which blanks mean something. -/
def Progress.add (p : Progress) (piece : Piece) : Progress := ⟨piece :: p.pieces, false, false⟩

/-- Adds a piece after which blanks mean nothing. -/
def Progress.addClosed (p : Progress) (piece : Piece) : Progress := ⟨piece :: p.pieces, true, false⟩

/-- Adds a piece that takes the place of a blank before it. -/
def Progress.addDelim (p : Progress) (piece : Piece) : Progress :=
  ⟨piece :: (if p.afterBlank then p.pieces.drop 1 else p.pieces), true, false⟩

/-- Adds a token. -/
def Progress.addToken (p : Progress) (t : Token) : Option Progress :=
  match t with
  | .blank | .comment =>
    some (if p.afterDelim then p else ⟨.blank :: p.pieces, false, true⟩)
  | .hash ds _ =>
    match Color.ofHex? ds with
    | some c => some (p.add (.color c))
    | none => some (p.add (.token (.hash ds false)))
  | .url content => some (p.add (.url content))
  | .delim _ | .comma => some (p.addDelim (.token t))
  | .badString | .badUrl | .closing _ => none
  | _ => some (p.add (.token t))

/-- The variable that pieces between the parentheses of `var` name. -/
def reference? (arguments : List Piece) : Option Piece :=
  let named (name : Text) (fallback : Option (List Piece)) : Option Piece :=
    if "--".toList.isPrefixOf name then some (reference name fallback) else none
  match trim arguments with
  | [.token (.ident name)] => named name none
  | .token (.ident name) :: .token .comma :: fallback => named name (some fallback)
  | _ => none

/-- The address between the parentheses of `url`. -/
def url? (arguments : List Piece) : Option Piece :=
  match trim arguments with
  | [.token (.string content)] => some (.url content)
  | _ => none

/-- The pieces after whole numbers with blanks between them. -/
def dropNumbers : List Piece → List Piece
  | .blank :: .token (.number n) :: ps => if n.whole then dropNumbers ps else ps
  | ps => ps

/-- Whether pieces between the parentheses of `env` name something, perhaps with what to take
instead. -/
def namesEnvironment (arguments : List Piece) : Bool :=
  match arguments with
  | .token (.ident _) :: ps =>
    match dropNumbers ps with
    | [] | .token .comma :: _ => true
    | _ => false
  | _ => false

mutual

/-- Adds a node. -/
def addNode (p : Progress) : Node → Option Progress
  | .leaf t _ => p.addToken t
  | .block (.call f) raw children closer =>
    match Color.ofNode? (.block (.call f) raw children closer) with
    | some c => some (p.add (.color c))
    | none =>
      match addNodes ⟨[], false, false⟩ children with
      | none => none
      | some inner =>
        let arguments := trim inner.pieces.reverse
        match String.ofList f with
        | "url" => (url? arguments).map p.add
        | "var" => (reference? arguments).map p.addClosed
        | "env" =>
          if namesEnvironment arguments then some (p.addClosed (.call f arguments)) else none
        | _ => some (p.addClosed (.call f arguments))
  | .block o _ children _ =>
    match addNodes ⟨.token (.opening o) :: p.pieces, false, false⟩ children with
    | none => none
    | some inner => some (inner.addClosed (.token (.closing o.closer)))

/-- Adds the nodes of a list. -/
def addNodes (p : Progress) : List Node → Option Progress
  | [] => some p
  | n :: ns =>
    match addNode p n with
    | none => none
    | some p' => addNodes p' ns

end

/-- The pieces of nodes; `none` if nothing can be made of one of them. -/
def ofNodes (ns : List Node) : Option (List Piece) :=
  (addNodes ⟨[], false, false⟩ ns).map fun p => trim p.pieces.reverse

/-! ### Writing -/

/-- What opens a bracketed stretch. -/
def writeOpening : Opening → Text
  | .paren => ['(']
  | .bracket => ['[']
  | .brace => ['{']
  | .call name => writeIdent name ++ ['(']

/-- A token. -/
def writeToken : Token → Text
  | .ident name => writeIdent name
  | .atWord name => '@' :: writeIdent name
  | .hash name isName => '#' :: (if isName then writeIdent name else writeName name)
  | .string content => writeString content
  | .url content => "url(".toList ++ writeString content ++ [')']
  | .number n => writeNumber n.value
  | .percentage n => writeNumeral n (Single.nearest (n.value * 100)) ++ ['%']
  | .dimension n unit => writeKnownDimension n.value unit
  | .blank => [' ']
  | .comment => []
  | .colon => [':']
  | .semicolon => [';']
  | .comma => [',']
  | .compare c => [c, '=']
  | .delim c => [c]
  | .markupOpen => "<!--".toList
  | .markupClose => "-->".toList
  | .opening o => writeOpening o
  | .closing c => [c]
  | .badString | .badUrl => []

/-- The blank after a piece that needs none when it is read, where it is not the last one and no
comma or parenthesis follows. -/
def blankBefore : List Piece → Text
  | [] => []
  | .token .comma :: _ | .token (.closing ')') :: _ => []
  | _ => [' ']

/-- What is written between pieces that a delimiter lies between. -/
def writeDelim (afterBlank : Bool) (c : Char) : Text :=
  if c = '+' ∨ c = '-' then [' ', c, ' ']
  else if (c = '/' ∨ c = '*') ∧ !afterBlank then [' ', c, ' ']
  else [c, ' ']

mutual

/-- A function with its arguments, or any other piece. -/
def write : Piece → Text
  | .blank => [' ']
  | .token t => writeToken t
  | .color c => c.write
  | .url content => "url(".toList ++ writeString content ++ [')']
  | .call name [.blank] => writeIdent name ++ ['(', ')']
  | .call name arguments => writeIdent name ++ '(' :: (writeList false arguments ++ [')'])
  | .reference name none => "var(".toList ++ writeIdent name ++ [')']
  | .reference name (some fallback) =>
    "var(".toList ++ writeIdent name ++ ',' :: ' ' :: (writeList false fallback ++ [')'])

/-- Pieces one after the other; `afterBlank` tells whether a blank was written last. A blank that
is alone is not written. -/
def writeList (afterBlank : Bool) : List Piece → Text
  | [] => []
  | p :: ps =>
    match p with
    | .token (.delim c) => writeDelim afterBlank c ++ writeList true ps
    | .token .comma => ',' :: ' ' :: writeList true ps
    | .token (.closing c) =>
      let gap := blankBefore ps
      c :: (gap ++ writeList (!gap.isEmpty) ps)
    | .call .. | .reference .. =>
      let gap := blankBefore ps
      p.write ++ gap ++ writeList (!gap.isEmpty) ps
    | .blank => ' ' :: writeList true ps
    | _ => p.write ++ writeList false ps

end

/-- Pieces one after the other. A blank that is alone is not written. -/
def writeAll (ps : List Piece) : Text :=
  match ps with
  | [.blank] => []
  | _ => writeList false ps

end Piece

end OneFile.Style
