import OneFile.Number.Single
import OneFile.Style.Token

/-!
# Cutting style sheets into tokens

## Main definitions

* `OneFile.Style.readEscaped` — a stretch of characters, some of them escaped.
* `OneFile.Style.lex` — the first token of a text, and what follows it.
* `OneFile.Style.lexAll` — all tokens of a text, each with the characters it was cut from.
-/

namespace OneFile.Style

/-! ### Characters -/

/-- The characters that end a line. -/
def isNewline (c : Char) : Bool := c == '\n' || c == '\r' || c == '\x0c'

/-- The characters between tokens. -/
def isSpace (c : Char) : Bool := c == ' ' || c == '\t' || isNewline c

/-- What stands for a character that there is none of. -/
def replacement : Char := '\uFFFD'

/-- The characters that a name can start with. A null character stands for the replacement. -/
def startsNameChar (c : Char) : Bool := c.isAlpha || c == '_' || c == '\x00' || 0x80 ≤ c.toNat

/-- The characters of names. -/
def isNameChar (c : Char) : Bool := c.isAlphanum || c == '_' || c == '-' || 0x80 ≤ c.toNat

/-- The value of a hexadecimal digit. -/
def hexDigit? (c : Char) : Option Nat :=
  if c.isDigit then some (c.toNat - 48)
  else if 'a' ≤ c ∧ c ≤ 'f' then some (c.toNat - 87)
  else if 'A' ≤ c ∧ c ≤ 'F' then some (c.toNat - 55)
  else none

/-- The character with the given code point. -/
def codePoint (n : Nat) : Char :=
  if n = 0 ∨ 0x10FFFF < n ∨ (0xD800 ≤ n ∧ n ≤ 0xDFFF) then replacement else Char.ofNat n

/-- Whether a line ends here. -/
def atNewline : Text → Bool
  | c :: _ => isNewline c
  | [] => false

/-! ### Escapes -/

/-- What kind of character comes next in a stretch with escapes. -/
inductive EscapeMode where
  | plain
  /-- After a backslash. -/
  | escape
  /-- After the digits of a code point. -/
  | hex (value count : Nat)
  /-- After a backslash that hides the end of the line. -/
  | lineBreak
  /-- After a carriage return, with which a line feed belongs together. -/
  | afterReturn
deriving DecidableEq, Repr

/-- What the next character adds, and what comes after it; `none` when the stretch ends before
it. The argument `plain` says so for characters that do not belong to an escape. -/
def escapeStep (plain : Char → Text → Option (Text × EscapeMode)) (c : Char) (s : Text) :
    EscapeMode → Option (Text × EscapeMode)
  | .plain => plain c s
  | .escape =>
    match hexDigit? c with
    | some d => some ([], .hex d 1)
    | none => some ([if c = '\x00' then replacement else c], .plain)
  | .hex value count =>
    match (if count < 6 then hexDigit? c else none) with
    | some d => some ([], .hex (value * 16 + d) (count + 1))
    | none =>
      if isSpace c then some ([codePoint value], if c = '\r' then .afterReturn else .plain)
      else (plain c s).map fun (added, mode) => (codePoint value :: added, mode)
  | .lineBreak => some ([], if c = '\r' then .afterReturn else .plain)
  | .afterReturn => if c = '\n' then some ([], .plain) else plain c s

/-- What a stretch adds that ends in the given mode. -/
def EscapeMode.flush (atEnd : Bool) : EscapeMode → Text
  | .hex value _ => [codePoint value]
  | .escape => if atEnd then [replacement] else []
  | _ => []

/-- A stretch of characters with its escapes resolved, and what follows it. -/
def readEscaped (plain : Char → Text → Option (Text × EscapeMode)) :
    EscapeMode → Text → Text × Text
  | mode, [] => (mode.flush true, [])
  | mode, c :: s =>
    match escapeStep plain c s mode with
    | none => (mode.flush false, c :: s)
    | some (added, mode') =>
      let (read, rest) := readEscaped plain mode' s
      (added ++ read, rest)

/-- The characters of a name. -/
def namePlain (c : Char) (s : Text) : Option (Text × EscapeMode) :=
  if isNameChar c then some ([c], .plain)
  else if c = '\x00' then some ([replacement], .plain)
  else if c = '\\' ∧ atNewline s = false then some ([], .escape)
  else none

/-- A name, and what follows it. -/
def readName (s : Text) : Text × Text := readEscaped namePlain .plain s

/-- Whether a name starts here. -/
def startsName : Text → Bool
  | '-' :: c :: s => startsNameChar c || c == '-' || (c == '\\' && !atNewline s)
  | '\\' :: s => !atNewline s
  | c :: _ => startsNameChar c
  | [] => false

/-- The characters of a string up to its quote. -/
def stringPlain (quote : Char) (c : Char) (s : Text) : Option (Text × EscapeMode) :=
  if c = quote ∨ isNewline c then none
  else if c = '\x00' then some ([replacement], .plain)
  else if c = '\\' then
    if s.isEmpty then some ([], .plain)
    else some ([], if atNewline s then .lineBreak else .escape)
  else some ([c], .plain)

/-- A string after its opening quote. -/
def readString (quote : Char) (s : Text) : Token × Text :=
  let (content, rest) := readEscaped (stringPlain quote) .plain s
  match rest with
  | [] => (.string content, [])
  | c :: after => if c = quote then (.string content, after) else (.badString, c :: after)

/-! ### Addresses -/

/-- The characters of an address up to its end, or up to one that needs quotes. -/
def urlPlain (c : Char) (s : Text) : Option (Text × EscapeMode) :=
  if c = '\x00' then some ([replacement], .plain)
  else if isSpace c ∨ c.toNat < 0x20 ∨ c.toNat = 0x7F ∨ ['"', '\'', '(', ')'].contains c then none
  else if c = '\\' then (if atNewline s then none else some ([], .escape))
  else some ([c], .plain)

/-- What follows an address that nothing can be made of. -/
def afterBadUrl : Text → Text
  | [] => []
  | '\\' :: c :: s => if c = ')' ∨ c = '\\' then afterBadUrl s else afterBadUrl (c :: s)
  | ')' :: s => s
  | _ :: s => afterBadUrl s

/-- An address without quotes after its opening parenthesis; `none` if there are quotes. -/
def readUrl (s : Text) : Option (Token × Text) :=
  match s.dropWhile isSpace with
  | '"' :: _ | '\'' :: _ => none
  | t =>
    let (content, rest) := readEscaped urlPlain .plain t
    match rest.dropWhile isSpace with
    | [] => some (.url content, [])
    | ')' :: after => some (.url content, after)
    | _ => some (.badUrl, afterBadUrl rest)

/-! ### Numbers -/

/-- The value of decimal digits. -/
def decimalNumber (ds : Text) : Nat := ds.foldl (fun n d => n * 10 + (d.toNat - 48)) 0

/-- The digits of an exponent, and what follows them. Very large exponents make no difference. -/
def readPower? (negative : Bool) (s : Text) : Option (Int × Text) :=
  match s.takeWhile Char.isDigit with
  | [] => none
  | ds =>
    let n : Int := min 400 (decimalNumber ds)
    some (if negative then -n else n, s.dropWhile Char.isDigit)

/-- An exponent, and what follows it. -/
def readExponent? : Text → Option (Int × Text)
  | c :: '+' :: s => if c = 'e' ∨ c = 'E' then readPower? false s else none
  | c :: '-' :: s => if c = 'e' ∨ c = 'E' then readPower? true s else none
  | c :: s => if c = 'e' ∨ c = 'E' then readPower? false s else none
  | [] => none

/-- Whether a number starts here. -/
def startsNumber : Text → Bool
  | '.' :: d :: _ => d.isDigit
  | d :: _ => d.isDigit
  | [] => false

/-- The digits after a decimal point, and what follows them. A point without digits is left. -/
def readFraction : Text → Text × Text
  | '.' :: d :: s =>
    if d.isDigit then ((d :: s).takeWhile Char.isDigit, (d :: s).dropWhile Char.isDigit)
    else ([], '.' :: d :: s)
  | s => ([], s)

/-- A number without its sign: its value, whether it is written as a whole number, and what
follows it. -/
def readUnsigned (s : Text) : Rat × Bool × Text :=
  let whole := s.takeWhile Char.isDigit
  let (fraction, afterFraction) := readFraction (s.dropWhile Char.isDigit)
  let value : Rat := decimalNumber (whole ++ fraction) * Single.power 10 (-(fraction.length : Int))
  match readExponent? afterFraction with
  | some (e, rest) => (value * Single.power 10 e, false, rest)
  | none => (value, fraction.isEmpty, afterFraction)

/-- A number after its sign, with what makes it a percentage or a dimension. -/
def readMagnitude (signed negative : Bool) (s : Text) : Token × Text :=
  let (magnitude, whole, rest) := readUnsigned s
  let value := if negative then -magnitude else magnitude
  match rest with
  | '%' :: after => (.percentage ⟨Single.nearest (value / 100), signed, whole⟩, after)
  | _ =>
    let n : Numeral := ⟨Single.nearest value, signed, whole⟩
    if startsName rest then
      let (unit, after) := readName rest
      (.dimension n unit, after)
    else (.number n, rest)

/-- A number, a percentage or a dimension. -/
def readNumeric : Text → Token × Text
  | '+' :: s => readMagnitude true false s
  | '-' :: s => readMagnitude true true s
  | s => readMagnitude false false s

/-! ### Tokens -/

/-- What follows a comment whose start has been read. -/
def afterComment : Text → Text
  | [] => []
  | '*' :: '/' :: s => s
  | _ :: s => afterComment s

/-- A name, or a name and an opening parenthesis. -/
def readNamed (s : Text) : Token × Text :=
  let (name, rest) := readName s
  match rest with
  | '(' :: after =>
    let call : Token × Text := (.opening (.call name), after)
    if Text.lower name = "url".toList then (readUrl after).getD call else call
  | _ => (.ident name, rest)

/-- The token that starts with the character `c`, and what follows it. -/
def lex (c : Char) (s : Text) : Token × Text :=
  if isSpace c then (.blank, s.dropWhile isSpace)
  else if startsNameChar c then readNamed (c :: s)
  else if c.isDigit then readNumeric (c :: s)
  else
    match c, s with
    | '"', _ | '\'', _ => readString c s
    | '#', _ =>
      if startsName s then
        let (name, rest) := readName s
        (.hash name true, rest)
      else if s.head?.any fun d => d.isDigit || d == '-' then
        let (name, rest) := readName s
        (.hash name false, rest)
      else (.delim '#', s)
    | '(', _ => (.opening .paren, s)
    | '[', _ => (.opening .bracket, s)
    | '{', _ => (.opening .brace, s)
    | ')', _ | ']', _ | '}', _ => (.closing c, s)
    | ',', _ => (.comma, s)
    | ':', _ => (.colon, s)
    | ';', _ => (.semicolon, s)
    | '+', _ | '.', _ => if startsNumber s && (c == '+' || s.head? != some '.') then
        readNumeric (c :: s) else (.delim c, s)
    | '-', '-' :: '>' :: t => (.markupClose, t)
    | '-', _ =>
      if startsNumber s then readNumeric (c :: s)
      else if startsName (c :: s) then readNamed (c :: s)
      else (.delim c, s)
    | '/', '*' :: t => (.comment, afterComment t)
    | '<', '!' :: '-' :: '-' :: t => (.markupOpen, t)
    | '@', _ =>
      if startsName s then
        let (name, rest) := readName s
        (.atWord name, rest)
      else (.delim c, s)
    | '\\', _ => if atNewline s then (.delim c, s) else readNamed (c :: s)
    | '$', '=' :: t | '*', '=' :: t | '^', '=' :: t | '|', '=' :: t | '~', '=' :: t =>
      (.compare c, t)
    | _, _ => (.delim c, s)

/-- The tokens of a text, at most `fuel` of them. -/
def lexWithin : Nat → Text → List (Token × Text)
  | 0, _ | _, [] => []
  | fuel + 1, c :: s =>
    let (token, rest) := lex c s
    (token, (c :: s).take (s.length + 1 - rest.length)) :: lexWithin fuel rest

/-- The tokens of a text, each with the characters it was cut from. A token takes at least one. -/
def lexAll (s : Text) : List (Token × Text) := lexWithin s.length s

end OneFile.Style
