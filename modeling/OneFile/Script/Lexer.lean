import OneFile.Script.Token
import OneFile.Text.Name
import OneFile.Cursor

/-!
# Cutting scripts into tokens

Where a token ends depends on what the grammar expects: a slash can start a regular expression, a
closing brace can go on with a template string, and text between tags is no code. So tokens are
cut one at a time, each by the function for what is expected.

## Main definitions

* `OneFile.Script.skipGap` — blanks and comments.
* `OneFile.Script.lex` — the next token of code.
* `OneFile.Script.lexRegex`, `OneFile.Script.lexTemplate`, `OneFile.Script.lexGreater`,
  `OneFile.Script.lexMarkupText`, `OneFile.Script.lexMarkupValue` — the tokens of other places.
-/

namespace OneFile.Script

/-! ### Blanks and comments -/

/-- The characters that end a line. -/
def endsLine (c : Char) : Bool := c == '\n' || c == '\r' || c == '\u2028' || c == '\u2029'

/-- The blanks between tokens that do not end a line. -/
def isGap (c : Char) : Bool :=
  let n := c.toNat
  n == 9 || n == 11 || n == 12 || n == 0x20 || n == 0x85 || n == 0xA0 || n == 0x1680 || n == 0x180E
    || (0x2000 ≤ n && n ≤ 0x200B) || n == 0x202F || n == 0x205F || n == 0x3000 || n == 0xFEFF

/-- What kind of characters lie before a token. -/
inductive Gap where
  | blank
  | lineComment
  | blockComment
deriving DecidableEq, Repr

/-- Passes over blanks and comments: whether a line ends among them, and the place after them.
`none` when a block comment has no end. -/
def skipGap : Gap → Bool → Nat → Text → Option (Bool × Cursor)
  | .blank, ended, o, '/' :: '/' :: s => skipGap .lineComment ended (o + 2) s
  | .blank, ended, o, '/' :: '*' :: s => skipGap .blockComment ended (o + 2) s
  | .blank, ended, o, c :: s =>
    if endsLine c then skipGap .blank true (o + c.utf8Size) s
    else if isGap c then skipGap .blank ended (o + c.utf8Size) s
    else some (ended, ⟨c :: s, o⟩)
  | .lineComment, ended, o, c :: s =>
    if endsLine c then skipGap .blank true (o + c.utf8Size) s
    else skipGap .lineComment ended (o + c.utf8Size) s
  | .blockComment, ended, o, '*' :: '/' :: s => skipGap .blank ended (o + 2) s
  | .blockComment, ended, o, c :: s =>
    skipGap .blockComment (ended || endsLine c) (o + c.utf8Size) s
  | .blockComment, _, _, [] => none
  | _, ended, o, [] => some (ended, ⟨[], o⟩)

/-! ### Escapes -/

/-- The value of a hexadecimal digit. -/
def hexDigit? (c : Char) : Option Nat :=
  if c.isDigit then some (c.toNat - 48)
  else if 'a' ≤ c ∧ c ≤ 'f' then some (c.toNat - 87)
  else if 'A' ≤ c ∧ c ≤ 'F' then some (c.toNat - 55)
  else none

/-- Whether the character is a hexadecimal digit. -/
def isHex (c : Char) : Bool := (hexDigit? c).isSome

/-- The value of hexadecimal digits. -/
def hexNumber (ds : Text) : Nat := ds.foldl (fun n d => n * 16 + (hexDigit? d).getD 0) 0

/-- The code point after `\u`, and what follows: four digits, or digits in braces. -/
def unicodeEscape? : Text → Option (Nat × Text)
  | '{' :: s =>
    let ds := s.takeWhile isHex
    match s.dropWhile isHex with
    | '}' :: after =>
      if ds.isEmpty || 0x10FFFF < hexNumber ds then none else some (hexNumber ds, after)
    | _ => none
  | a :: b :: c :: d :: s =>
    if [a, b, c, d].all isHex then some (hexNumber [a, b, c, d], s) else none
  | _ => none

/-- Whether the characters after a backslash mean something in a string. -/
def isEscape : Text → Bool
  | 'u' :: s => (unicodeEscape? s).isSome
  | 'x' :: a :: b :: _ => isHex a && isHex b
  | 'x' :: _ => false
  | _ => true

/-- Whether the characters after a backslash mean something in a template string, where digits do
not. -/
def isTemplateEscape : Text → Bool
  | '0' :: c :: _ => !c.isDigit
  | c :: s => (c == '0' || !c.isDigit) && isEscape (c :: s)
  | [] => true

/-! ### Names -/

/-- The character of an escape in a name, and what follows; the text starts after the
backslash. -/
def nameEscape? : Text → Option (Char × Text)
  | 'u' :: s =>
    match unicodeEscape? s with
    | some (n, after) => some (Char.ofNat n, after)
    | none => none
  | _ => none

/-- A name with escapes, from any of its characters on: its characters, and what follows. `fuel`
bounds their number. -/
def escapedName : Nat → Text → Option (Text × Text)
  | 0, _ => none
  | fuel + 1, s =>
    let plain : Text := s.takeWhile Text.continuesName
    match s.dropWhile Text.continuesName with
    | '\\' :: t =>
      match nameEscape? t with
      | none => none
      | some (c, after) =>
        if Text.continuesName c then
          (escapedName fuel after).map fun (name, rest) => (plain ++ c :: name, rest)
        else none
    | rest => some (plain, rest)

/-- Whether a name starts with these characters. -/
def startsName : Text → Bool
  | '\\' :: s => (nameEscape? s).any fun (c, _) => Text.startsName c
  | c :: _ => Text.startsName c
  | [] => false

/-- A name at the cursor: its characters, whether it has escapes, and the place after it. -/
def lexName? (c : Cursor) : Option (Text × Bool × Cursor) :=
  let s := c.rest
  if !startsName s then none
  else
    let after := c.skipWhile Text.continuesName
    match after.rest with
    | '\\' :: _ =>
      match escapedName (s.length + 1) s with
      | none => none
      | some (name, rest) =>
        some (name, true, ⟨rest, c.offset + Text.size (s.take (s.length - rest.length))⟩)
    | _ => some (s.takeWhile Text.continuesName, false, after)

/-! ### Numbers -/

/-- The place after further digits, each alone or after one underscore; `none` for an underscore
without a digit after it. -/
def afterDigits (p : Char → Bool) : Nat → Text → Option Cursor
  | o, '_' :: c :: s => if p c then afterDigits p (o + 2) s else none
  | _, ['_'] => none
  | o, c :: s => if p c then afterDigits p (o + 1) s else some ⟨c :: s, o⟩
  | o, [] => some ⟨[], o⟩

/-- The place after a first digit and further ones. -/
def afterFirstDigit (p : Char → Bool) (o : Nat) : Text → Option Cursor
  | c :: s => if p c then afterDigits p (o + 1) s else none
  | [] => none

/-- The place after an exponent, if there is one. -/
def afterExponent (c : Cursor) : Option Cursor :=
  match c.rest with
  | d :: s =>
    if d = 'e' ∨ d = 'E' then
      match s with
      | '+' :: t | '-' :: t => afterFirstDigit Char.isDigit (c.offset + 2) t
      | t => afterFirstDigit Char.isDigit (c.offset + 1) t
    else some c
  | [] => some c

/-- The place after the digits that follow a decimal point, and an exponent. -/
def afterPoint (c : Cursor) : Option Cursor :=
  match c.rest with
  | '_' :: _ => none
  | d :: s =>
    if d.isDigit then (afterDigits Char.isDigit (c.offset + 1) s).bind afterExponent
    else afterExponent c
  | [] => some c

/-- The place after what can follow the whole part of a decimal number: a fraction, an exponent or
neither. -/
def afterWhole (c : Cursor) : Option Cursor :=
  match c.rest with
  | '.' :: s => afterPoint ⟨s, c.offset + 1⟩
  | _ => afterExponent c

/-- The place after the mark of a big integer, and whether there is one. -/
def afterBigMark (c : Cursor) : Bool × Cursor :=
  match c.rest with
  | 'n' :: s => (true, ⟨s, c.offset + 1⟩)
  | _ => (false, c)

/-- Whether a number is a big integer, and the place after it. -/
def afterNumber (c : Cursor) : Option (Bool × Cursor) :=
  let o := c.offset
  match c.rest with
  | '0' :: d :: t =>
    if d = 'x' ∨ d = 'X' then (afterFirstDigit isHex (o + 2) t).map afterBigMark
    else if d = 'o' ∨ d = 'O' then
      (afterFirstDigit (fun e => '0' ≤ e && e ≤ '7') (o + 2) t).map afterBigMark
    else if d = 'b' ∨ d = 'B' then
      (afterFirstDigit (fun e => e == '0' || e == '1') (o + 2) t).map afterBigMark
    else if d.isDigit then
      let after := Cursor.skipWhile Char.isDigit ⟨d :: t, o + 1⟩
      if ((d :: t).takeWhile Char.isDigit).any (fun e => e == '8' || e == '9') then
        (afterWhole after).map (false, ·)
      else some (false, after)
    else if d = 'n' then some (true, ⟨t, o + 2⟩)
    else (afterWhole ⟨d :: t, o + 1⟩).map (false, ·)
  | '.' :: t => (afterPoint ⟨t, o + 1⟩).map (false, ·)
  | _ :: t =>
    match afterDigits Char.isDigit (o + 1) t with
    | none => none
    | some after =>
      match afterBigMark after with
      | (true, after') => some (true, after')
      | (false, _) => (afterWhole after).map (false, ·)
  | [] => none

/-- Whether a number may end before this text: no name and no digit may follow. -/
def endsNumber : Text → Bool
  | '\\' :: _ => false
  | c :: _ => !Text.continuesName c
  | [] => true

/-! ### Strings, templates and regular expressions -/

/-- The place after a string whose opening quote has been read, and whether all its escapes mean
something. `none` when the line ends first. -/
def stringEnd (quote : Char) : Bool → Nat → Text → Option (Bool × Cursor)
  | _, _, [] => none
  | valid, o, '\\' :: '\r' :: '\n' :: s => stringEnd quote valid (o + 3) s
  | valid, o, '\\' :: c :: s => stringEnd quote (valid && isEscape (c :: s)) (o + 1 + c.utf8Size) s
  | valid, o, c :: s =>
    if c = quote then some (valid, ⟨s, o + 1⟩)
    else if c = '\n' ∨ c = '\r' then none
    else stringEnd quote valid (o + c.utf8Size) s

/-- The place after a stretch of a template string, whether the string ends there, and whether all
escapes in the stretch mean something. -/
def templateEnd : Bool → Nat → Text → Option (Bool × Bool × Cursor)
  | _, _, [] => none
  | valid, o, '\\' :: c :: s =>
    templateEnd (valid && isTemplateEscape (c :: s)) (o + 1 + c.utf8Size) s
  | valid, o, '$' :: '{' :: s => some (false, valid, ⟨s, o + 2⟩)
  | valid, o, c :: s =>
    if c = '`' then some (true, valid, ⟨s, o + 1⟩) else templateEnd valid (o + c.utf8Size) s

/-- The place after the body of a regular expression; a slash within a class does not end it. -/
def regexEnd : Bool → Nat → Text → Option Cursor
  | _, _, [] => none
  | inClass, o, '\\' :: c :: s =>
    if endsLine c then none else regexEnd inClass (o + 1 + c.utf8Size) s
  | inClass, o, c :: s =>
    if endsLine c then none
    else if c = '/' ∧ inClass = false then some ⟨s, o + 1⟩
    else regexEnd (if c = '[' then true else if c = ']' then false else inClass) (o + c.utf8Size) s

/-- Whether every flag is known and none is repeated. -/
def validFlags (flags : Text) : Bool :=
  flags.all "dgimsuvy".toList.contains && flags.eraseDups.length == flags.length

/-! ### Punctuators -/

/-- The longest punctuator at the start of a text, and its length. Those that start with a
greater sign are read as that sign alone, for lists of type arguments end in it. -/
def lexPunct? : Text → Option (Punct × Nat)
  | '{' :: _ => some (.openBrace, 1)
  | '}' :: _ => some (.closeBrace, 1)
  | '(' :: _ => some (.openParen, 1)
  | ')' :: _ => some (.closeParen, 1)
  | '[' :: _ => some (.openBracket, 1)
  | ']' :: _ => some (.closeBracket, 1)
  | ';' :: _ => some (.semicolon, 1)
  | ',' :: _ => some (.comma, 1)
  | ':' :: _ => some (.colon, 1)
  | '@' :: _ => some (.at, 1)
  | '~' :: _ => some (.tilde, 1)
  | '>' :: _ => some (.greater, 1)
  | '.' :: '.' :: '.' :: _ => some (.ellipsis, 3)
  | '.' :: _ => some (.dot, 1)
  | '?' :: '?' :: '=' :: _ => some (.nullishEq, 3)
  | '?' :: '?' :: _ => some (.nullish, 2)
  | '?' :: '.' :: c :: _ => if c.isDigit then some (.question, 1) else some (.optionalDot, 2)
  | '?' :: '.' :: [] => some (.optionalDot, 2)
  | '?' :: _ => some (.question, 1)
  | '<' :: '<' :: '=' :: _ => some (.shiftLeftEq, 3)
  | '<' :: '<' :: _ => some (.shiftLeft, 2)
  | '<' :: '=' :: _ => some (.lessEq, 2)
  | '<' :: _ => some (.less, 1)
  | '=' :: '=' :: '=' :: _ => some (.eqEqEq, 3)
  | '=' :: '=' :: _ => some (.eqEq, 2)
  | '=' :: '>' :: _ => some (.arrow, 2)
  | '=' :: _ => some (.eq, 1)
  | '!' :: '=' :: '=' :: _ => some (.notEqEq, 3)
  | '!' :: '=' :: _ => some (.notEq, 2)
  | '!' :: _ => some (.not, 1)
  | '+' :: '+' :: _ => some (.increment, 2)
  | '+' :: '=' :: _ => some (.plusEq, 2)
  | '+' :: _ => some (.plus, 1)
  | '-' :: '-' :: _ => some (.decrement, 2)
  | '-' :: '=' :: _ => some (.minusEq, 2)
  | '-' :: _ => some (.minus, 1)
  | '*' :: '*' :: '=' :: _ => some (.powerEq, 3)
  | '*' :: '*' :: _ => some (.power, 2)
  | '*' :: '=' :: _ => some (.starEq, 2)
  | '*' :: _ => some (.star, 1)
  | '/' :: '=' :: _ => some (.slashEq, 2)
  | '/' :: _ => some (.slash, 1)
  | '%' :: '=' :: _ => some (.percentEq, 2)
  | '%' :: _ => some (.percent, 1)
  | '&' :: '&' :: '=' :: _ => some (.andEq, 3)
  | '&' :: '&' :: _ => some (.and, 2)
  | '&' :: '=' :: _ => some (.bitAndEq, 2)
  | '&' :: _ => some (.bitAnd, 1)
  | '|' :: '|' :: '=' :: _ => some (.orEq, 3)
  | '|' :: '|' :: _ => some (.or, 2)
  | '|' :: '=' :: _ => some (.bitOrEq, 2)
  | '|' :: _ => some (.bitOr, 1)
  | '^' :: '=' :: _ => some (.bitXorEq, 2)
  | '^' :: _ => some (.bitXor, 1)
  | _ => none

/-! ### Tokens -/

/-- A token that starts at `start` and goes up to `after`. -/
def lexeme (start : Nat) (afterLineEnd : Bool) (token : Token) (after : Cursor)
    (name : Text := []) : Lexeme × Cursor :=
  (⟨token, ⟨start, after.offset⟩, afterLineEnd, name⟩, after)

/-- What no token starts with, from `start` on: everything that is left at the cursor. -/
def lexBad (start : Nat) (afterLineEnd : Bool) (c : Cursor) : Lexeme × Cursor :=
  lexeme start afterLineEnd .bad ⟨[], c.offset + c.rest.size⟩

/-- The token of code at the cursor, which is at no blank. -/
def lexHere (afterLineEnd : Bool) (c : Cursor) : Lexeme × Cursor :=
  let bad := fun (_ : Unit) => lexBad c.offset afterLineEnd c
  match c.rest with
  | [] => lexeme c.offset afterLineEnd .endOfInput c
  | d :: s =>
    if d = '"' ∨ d = '\'' then
      match stringEnd d true (c.offset + 1) s with
      | some (true, after) =>
        lexeme c.offset afterLineEnd .string after (Text.takeBytes (after.offset - c.offset - 2) s)
      | _ => bad ()
    else if d = '`' then
      match templateEnd true (c.offset + 1) s with
      | some (last, valid, after) => lexeme c.offset afterLineEnd (.template last valid) after
      | none => bad ()
    else if d.isDigit || (d == '.' && (s.head?.any Char.isDigit)) then
      match afterNumber c with
      | some (big, after) =>
        if endsNumber after.rest then
          lexeme c.offset afterLineEnd (if big then .bigint else .number) after
        else bad ()
      | none => bad ()
    else if d = '#' then
      match lexName? ⟨s, c.offset + 1⟩ with
      | some (name, _, after) => lexeme c.offset afterLineEnd .privateName after name
      | none => bad ()
    else
      match lexName? c with
      | some (name, escaped, after) =>
        lexeme c.offset afterLineEnd (.word (.ofText name) escaped) after name
      | none =>
        match lexPunct? (d :: s) with
        | some (p, n) => lexeme c.offset afterLineEnd (.punct p) ⟨(d :: s).drop n, c.offset + n⟩
        | none => bad ()

/-- The next token of code. -/
def lex (c : Cursor) : Lexeme × Cursor :=
  match skipGap .blank false c.offset c.rest with
  | some (afterLineEnd, c') => lexHere afterLineEnd c'
  | none => lexBad c.offset false c

/-! ### Tokens of other places -/

/-- The regular expression that starts with the slash at `start`, whose further characters are at
the cursor. -/
def lexRegex (start : Nat) (afterLineEnd : Bool) (c : Cursor) : Lexeme × Cursor :=
  match regexEnd false c.offset c.rest with
  | none => lexBad start afterLineEnd c
  | some body =>
    let after := body.skipWhile Text.continuesName
    if validFlags (body.rest.takeWhile Text.continuesName) then
      lexeme start afterLineEnd .regex after
    else lexBad start afterLineEnd c

/-- The further stretch of a template string after the closing brace at `start`. -/
def lexTemplate (start : Nat) (c : Cursor) : Lexeme × Cursor :=
  match templateEnd true c.offset c.rest with
  | some (last, valid, after) => lexeme start false (.template last valid) after
  | none => lexBad start false c

/-- The operator that starts with the greater sign at `start`, whose further characters are at the
cursor. -/
def lexGreater (start : Nat) (afterLineEnd : Bool) (c : Cursor) : Lexeme × Cursor :=
  let op (p : Punct) (n : Nat) : Lexeme × Cursor :=
    lexeme start afterLineEnd (.punct p) ⟨c.rest.drop n, c.offset + n⟩
  match c.rest with
  | '>' :: '>' :: '=' :: _ => op .shiftRightZeroEq 3
  | '>' :: '>' :: _ => op .shiftRightZero 2
  | '>' :: '=' :: _ => op .shiftRightEq 2
  | '>' :: _ => op .shiftRight 1
  | '=' :: _ => op .greaterEq 1
  | _ => op .greater 0

/-- The next token between embedded tags: a bracket, a brace, or text up to one of them. -/
def lexMarkupText (c : Cursor) : Lexeme × Cursor :=
  match c.rest with
  | [] => lexeme c.offset false .endOfInput c
  | '<' :: s => lexeme c.offset false (.punct .less) ⟨s, c.offset + 1⟩
  | '{' :: s => lexeme c.offset false (.punct .openBrace) ⟨s, c.offset + 1⟩
  | _ => lexeme c.offset false .markupText (c.skipWhile fun d => d != '<' && d != '{')

/-- The value of an attribute after its equals sign: a string, which has no escapes here, or
whatever token is next. -/
def lexMarkupValue (c : Cursor) : Lexeme × Cursor :=
  match skipGap .blank false c.offset c.rest with
  | none => lexBad c.offset false c
  | some (afterLineEnd, c') =>
    match c'.rest with
    | d :: s =>
      if d = '"' ∨ d = '\'' then
        match Text.breakOn [d] s with
        | some (value, rest) =>
          lexeme c'.offset afterLineEnd .markupString ⟨rest, c'.offset + 2 + value.size⟩
        | none => lexBad c'.offset afterLineEnd c'
      else lexHere afterLineEnd c'
    | [] => lexHere afterLineEnd c'

/-- A name in a tag goes on with hyphens: the name from `start` on, some of whose characters,
`read`, come before the cursor. -/
def lexTagName (start : Nat) (afterLineEnd : Bool) (read : Text) (c : Cursor) : Lexeme × Cursor :=
  let p (d : Char) : Bool := Text.continuesName d || d == '-'
  lexeme start afterLineEnd (.word .plain false) (c.skipWhile p) (read ++ c.rest.takeWhile p)

/-- What can come next: code, text between embedded tags, or the value of an attribute. -/
inductive Region where
  | code
  | markupText
  | markupValue
deriving DecidableEq, Repr

/-- The next token, where it belongs to a region. -/
def Region.lex : Region → Cursor → Lexeme × Cursor
  | .code => Script.lex
  | .markupText => lexMarkupText
  | .markupValue => lexMarkupValue

end OneFile.Script
