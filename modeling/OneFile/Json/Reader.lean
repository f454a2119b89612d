import OneFile.Json.Value

/-!
# Reading JSON

A text is first cut into tokens, each of which consumes characters; then one pass over the tokens
builds the value, with the arrays and objects that are still open on a stack.

## Main definitions

* `OneFile.Json.Token`, `OneFile.Json.tokens?` — the tokens of a text.
* `OneFile.Json.build?` — the value that tokens spell.
* `OneFile.Json.read?` — both in a row.
-/

namespace OneFile.Json

/-! ### Tokens -/

/-- A token. -/
inductive Token where
  | openBrace
  | closeBrace
  | openBracket
  | closeBracket
  | colon
  | comma
  | string (s : Text)
  /-- A number, or one of the three literal names. -/
  | atom (value : Json)
deriving Repr

/-- The value of a hexadecimal digit. -/
def hexValue? (c : Char) : Option Nat :=
  if c.isDigit then some (c.toNat - 48)
  else if 'a' ≤ c ∧ c ≤ 'f' then some (c.toNat - 87)
  else if 'A' ≤ c ∧ c ≤ 'F' then some (c.toNat - 55)
  else none

/-- The value of four hexadecimal digits. -/
def hex4Value? (a b c d : Char) : Option Nat := do
  return ((← hexValue? a) * 16 + (← hexValue? b)) * 256 + (← hexValue? c) * 16 + (← hexValue? d)

/-- The character that a single letter after a backslash stands for. -/
def unescape? (c : Char) : Option Char :=
  match c with
  | '"' | '\\' | '/' => some c
  | 'b' => some '\x08'
  | 'f' => some '\x0c'
  | 'n' => some '\n'
  | 'r' => some '\r'
  | 't' => some '\t'
  | _ => none

/-- The characters of a string after its opening quote, before those already read (latest first);
and what follows the closing quote. Two escapes that make a surrogate pair are one character, and
one that is no character is refused. -/
def stringRest (read : Text) : Text → Option (Text × Text)
  | [] => none
  | '"' :: s => some (read.reverse, s)
  | '\\' :: 'u' :: a :: b :: c :: d :: s =>
    match hex4Value? a b c d with
    | none => none
    | some n =>
      if n < 0xD800 ∨ 0xDFFF < n then stringRest (Char.ofNat n :: read) s
      else if 0xDBFF < n then none
      else
        match s with
        | '\\' :: 'u' :: a' :: b' :: c' :: d' :: s' =>
          match hex4Value? a' b' c' d' with
          | none => none
          | some m =>
            if 0xDC00 ≤ m ∧ m ≤ 0xDFFF then
              stringRest (Char.ofNat (0x10000 + (n - 0xD800) * 0x400 + (m - 0xDC00)) :: read) s'
            else none
        | _ => none
  | '\\' :: c :: s =>
    match unescape? c with
    | none => none
    | some d => stringRest (d :: read) s
  | c :: s => if c.toNat < 0x20 then none else stringRest (c :: read) s

/-- The value of digits. -/
def digitsValue (ds : Text) : Nat := ds.foldl (fun n d => n * 10 + (d.toNat - 48)) 0

/-- Whether a magnitude `m · 10^e` is past the largest finite double. -/
def tooLarge (m : Nat) (e : Int) : Bool :=
  if m = 0 ∨ e < -400 then false
  else if 400 < e then true
  else if e < 0 then (Nat.pow 2 1024 - Nat.pow 2 970) * Nat.pow 10 e.natAbs ≤ m
  else Nat.pow 2 1024 - Nat.pow 2 970 ≤ m * Nat.pow 10 e.natAbs

/-- A number without its sign: its value, and what follows. -/
def unsigned (negative : Bool) (s : Text) : Option (Json × Text) :=
  let whole : Text := s.takeWhile Char.isDigit
  let s₁ : Text := s.dropWhile Char.isDigit
  if whole.isEmpty || (whole.head? == some '0' && whole.length > 1) then none
  else
    let fraction : Option (Text × Text) :=
      match s₁ with
      | '.' :: t =>
        let ds := t.takeWhile Char.isDigit
        if ds.isEmpty then none else some (ds, t.dropWhile Char.isDigit)
      | _ => some ([], s₁)
    match fraction with
    | none => none
    | some (ds, s₂) =>
      let exponent : Option (Option Int × Text) :=
        match s₂ with
        | c :: t =>
          if c = 'e' ∨ c = 'E' then
            let (sign, u) : Int × Text := match t with
              | '+' :: u => (1, u)
              | '-' :: u => (-1, u)
              | u => (1, u)
            let es := u.takeWhile Char.isDigit
            if es.isEmpty then none
            else some (some (sign * digitsValue es), u.dropWhile Char.isDigit)
          else some (none, s₂)
        | [] => some (none, s₂)
      match exponent with
      | none => none
      | some (e, s₃) =>
        let m := digitsValue (whole ++ ds)
        if tooLarge m (e.getD 0 - ds.length) then none
        else if !negative && ds.isEmpty && e.isNone && m < Nat.pow 2 64 then some (.nat m, s₃)
        else some (.otherNumber, s₃)

/-- The token that the text starts with, and what follows. -/
def token : Text → Option (Token × Text)
  | [] => none
  | c :: s =>
    match c with
    | '{' => some (.openBrace, s)
    | '}' => some (.closeBrace, s)
    | '[' => some (.openBracket, s)
    | ']' => some (.closeBracket, s)
    | ':' => some (.colon, s)
    | ',' => some (.comma, s)
    | '"' => (stringRest [] s).map fun (t, s') => (.string t, s')
    | '-' => (unsigned true s).map fun (j, s') => (.atom j, s')
    | _ =>
      if c.isDigit then (unsigned false (c :: s)).map fun (j, s') => (.atom j, s')
      else
        match "null".toList.isPrefixOf? (c :: s), "true".toList.isPrefixOf? (c :: s),
          "false".toList.isPrefixOf? (c :: s) with
        | some s', _, _ => some (.atom .null, s')
        | _, some s', _ => some (.atom (.bool true), s')
        | _, _, some s' => some (.atom (.bool false), s')
        | _, _, _ => none

/-- The blanks between tokens. -/
def isBlank (c : Char) : Bool := c == ' ' || c == '\n' || c == '\t' || c == '\r'

/-- The tokens of a text, as many as `fuel` allows. -/
def tokensWithin : Nat → Text → Option (List Token)
  | 0, _ => none
  | fuel + 1, s =>
    match s.dropWhile isBlank with
    | [] => some []
    | s' =>
      match token s' with
      | none => none
      | some (t, rest) => (tokensWithin fuel rest).map (t :: ·)

/-- The tokens of a text. A token has at least one character. -/
def tokens? (s : Text) : Option (List Token) := tokensWithin (s.length + 1) s

/-! ### Values -/

/-- An array or object that is still open, with what it holds so far, latest first. -/
inductive Open where
  | array (items : List Json)
  /-- An object whose next value belongs to `name`. -/
  | object (members : List (Text × Json)) (name : Text)
deriving Repr

/-- What may come next. -/
inductive Expect where
  | value
  | valueOrClose
  | nameOrClose (members : List (Text × Json))
  | name (members : List (Text × Json))
  | colon (members : List (Text × Json)) (name : Text)
  /-- A comma or a closing bracket after a whole value. -/
  | after (value : Json)
deriving Repr

/-- Members without the earlier ones of each name. -/
def lastOfEach : List (Text × Json) → List (Text × Json)
  | [] => []
  | m :: ms => m :: (lastOfEach ms).filter fun m' => m'.1 != m.1

/-- How deep arrays and objects may lie in each other. -/
def maxDepth : Nat := 127

/-- The value that the tokens spell, with open arrays and objects on the stack. -/
def build? (stack : List Open) (expect : Expect) : List Token → Option Json
  | [] =>
    match stack, expect with
    | [], .after v => some v
    | _, _ => none
  | t :: ts =>
    match expect with
    | .value | .valueOrClose =>
      match t with
      | .string s => build? stack (.after (.string s)) ts
      | .atom v => build? stack (.after v) ts
      | .openBracket =>
        if stack.length < maxDepth then build? (.array [] :: stack) .valueOrClose ts else none
      | .openBrace =>
        if stack.length < maxDepth then build? stack (.nameOrClose []) ts else none
      | .closeBracket =>
        match expect, stack with
        | .valueOrClose, .array items :: below => build? below (.after (.array items.reverse)) ts
        | _, _ => none
      | _ => none
    | .nameOrClose members =>
      match t with
      | .string s => build? stack (.colon members s) ts
      | .closeBrace => build? stack (.after (.object (lastOfEach members).reverse)) ts
      | _ => none
    | .name members =>
      match t with
      | .string s => build? stack (.colon members s) ts
      | _ => none
    | .colon members name =>
      match t with
      | .colon => build? (.object members name :: stack) .value ts
      | _ => none
    | .after v =>
      match t, stack with
      | .comma, .array items :: below => build? (.array (v :: items) :: below) .value ts
      | .closeBracket, .array items :: below =>
        build? below (.after (.array (v :: items).reverse)) ts
      | .comma, .object members name :: below => build? below (.name ((name, v) :: members)) ts
      | .closeBrace, .object members name :: below =>
        build? below (.after (.object (lastOfEach ((name, v) :: members)).reverse)) ts
      | _, _ => none

/-- The value that a text spells. -/
def read? (s : Text) : Option Json := (tokens? s).bind (build? [] .value)

end OneFile.Json
