import OneFile.Text.Basic

/-!
# Tokens of style sheets

## Main definitions

* `OneFile.Style.Token` — a token.
* `OneFile.Style.Node` — a token, or brackets with all that is between them.
* `OneFile.Style.Node.raw` — the text that a node was read from.
-/

namespace OneFile.Style

/-! ### Tokens -/

/-- A number as it was written. -/
structure Numeral where
  value : Rat
  /-- Whether it was written with a sign. -/
  signed : Bool
  /-- Whether it was written without a decimal point and an exponent. -/
  whole : Bool
deriving DecidableEq, Repr

/-- What starts a bracketed stretch. -/
inductive Opening where
  | paren
  | bracket
  | brace
  /-- A name and a parenthesis. -/
  | call (name : Text)
deriving DecidableEq, Repr

/-- A token. -/
inductive Token where
  | ident (name : Text)
  /-- A name after an at sign. -/
  | atWord (name : Text)
  /-- A name after a number sign; `isName` when it could stand on its own. -/
  | hash (name : Text) (isName : Bool)
  | string (content : Text)
  /-- An address that is not quoted. -/
  | url (content : Text)
  | number (n : Numeral)
  /-- A percentage; the number is the part of one. -/
  | percentage (n : Numeral)
  | dimension (n : Numeral) (unit : Text)
  | blank
  | comment
  | colon
  | semicolon
  | comma
  /-- A comparison of attribute values: an equals sign after the character. -/
  | compare (c : Char)
  /-- Any other character. -/
  | delim (c : Char)
  /-- The start of a comment in markup. -/
  | markupOpen
  /-- The end of a comment in markup. -/
  | markupClose
  | opening (o : Opening)
  /-- A closing bracket. -/
  | closing (c : Char)
  /-- A string that its line ends. -/
  | badString
  /-- An address with characters that need quotes. -/
  | badUrl
deriving DecidableEq, Repr

namespace Token

/-- Whether nothing can be made of the token. In a tree, closing brackets without an opening one
are left as tokens. -/
def isBad : Token → Bool
  | badString | badUrl | closing _ => true
  | _ => false

/-- Whether the token only separates others. -/
def isGap : Token → Bool
  | blank | comment => true
  | _ => false

end Token

/-- The bracket that closes what `o` opens. -/
def Opening.closer : Opening → Char
  | .paren | .call _ => ')'
  | .bracket => ']'
  | .brace => '}'

/-! ### Trees -/

/-- A token, or brackets with all that is between them; each with the text it was read from. -/
inductive Node where
  | leaf (token : Token) (raw : Text)
  /-- A bracketed stretch. Its closing bracket is missing if the style sheet ends before it. -/
  | block (o : Opening) (raw : Text) (children : List Node) (closer : Text)
deriving Repr

namespace Node

mutual

/-- The text that a node was read from. -/
def raw : Node → Text
  | leaf _ raw => raw
  | block _ raw children closer => raw ++ rawList children ++ closer

/-- The text that a list of nodes was read from. -/
def rawList : List Node → Text
  | [] => []
  | n :: ns => n.raw ++ rawList ns

end

mutual

/-- How deep brackets are nested in a node. -/
def depth : Node → Nat
  | leaf .. => 0
  | block _ _ children _ => depthList children + 1

/-- How deep brackets are nested in a list of nodes. -/
def depthList : List Node → Nat
  | [] => 0
  | n :: ns => max n.depth (depthList ns)

end

mutual

/-- Whether there is a token in the node that nothing can be made of. -/
def hasBad : Node → Bool
  | leaf token _ => token.isBad
  | block _ _ children _ => hasBadList children

/-- Whether there is a token in the list that nothing can be made of. -/
def hasBadList : List Node → Bool
  | [] => false
  | n :: ns => n.hasBad || hasBadList ns

end

/-- Whether the node only separates others. -/
def isGap : Node → Bool
  | leaf token _ => token.isGap
  | block .. => false

/-- The nodes from the first one on that does not only separate. -/
def skipGaps (ns : List Node) : List Node := ns.dropWhile isGap

end Node

end OneFile.Style
