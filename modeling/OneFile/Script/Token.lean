import OneFile.Span

/-!
# Tokens of scripts

Scripts are modules of JavaScript with type annotations and embedded markup. This module lists
their words and punctuators, and says what a token is.

## Main definitions

* `OneFile.Script.Word` — the words that mean something to the grammar; any other is `plain`.
* `OneFile.Script.Punct` — punctuators.
* `OneFile.Script.Token`, `OneFile.Script.Lexeme` — a token, and a token at its place.
-/

namespace OneFile.Script

/-! ### Words -/

/-- A word, by what it means to the grammar. -/
inductive Word where
  | «await» | «break» | «case» | «catch» | «class» | «const» | «continue» | «debugger» | «default»
  | «delete» | «do» | «else» | «enum» | «export» | «extends» | «false» | «finally» | «for»
  | «function» | «if» | «import» | «in» | «instanceof» | «new» | «null» | «return» | «super»
  | «switch» | «this» | «throw» | «true» | «try» | «typeof» | «var» | «void» | «while» | «with»
  | «implements» | «interface» | «let» | «package» | «private» | «protected» | «public» | «static»
  | «yield»
  | «abstract» | «accessor» | «any» | «as» | «assert» | «asserts» | «async» | «bigint» | «boolean»
  | «constructor» | «declare» | «defer» | «from» | «get» | «global» | «infer» | «intrinsic» | «is»
  | «keyof» | «meta» | «module» | «namespace» | «never» | «number» | «object» | «of» | «out»
  | «override» | «readonly» | «require» | «satisfies» | «set» | «source» | «string» | «symbol»
  | «target» | «type» | «undefined» | «unique» | «unknown» | «using»
  /-- Any word that means nothing. -/
  | plain
deriving DecidableEq, Repr

namespace Word

/-- The words that are never names. -/
def reserved : List (String × Word) := [
  ("await", «await»), ("break", «break»), ("case", «case»), ("catch", «catch»),
  ("class", «class»), ("const", «const»), ("continue", «continue»), ("debugger", «debugger»),
  ("default", «default»), ("delete", «delete»), ("do", «do»), ("else", «else»), ("enum", «enum»),
  ("export", «export»), ("extends", «extends»), ("false", «false»), ("finally", «finally»),
  ("for", «for»), ("function", «function»), ("if", «if»), ("import", «import»), ("in", «in»),
  ("instanceof", «instanceof»), ("new", «new»), ("null", «null»), ("return", «return»),
  ("super", «super»), ("switch", «switch»), ("this", «this»), ("throw", «throw»),
  ("true", «true»), ("try", «try»), ("typeof", «typeof»), ("var", «var»), ("void", «void»),
  ("while", «while»), ("with", «with»)]

/-- The words that are reserved by strict code only, and are names otherwise. -/
def restricted : List (String × Word) := [
  ("implements", «implements»), ("interface", «interface»), ("let", «let»),
  ("package", «package»), ("private", «private»), ("protected", «protected»),
  ("public", «public»), ("static", «static»), ("yield", «yield»)]

/-- The words that mean something in some places, and are names otherwise. -/
def contextual : List (String × Word) := [
  ("abstract", «abstract»), ("accessor", «accessor»), ("any", «any»), ("as", «as»),
  ("assert", «assert»), ("asserts", «asserts»), ("async", «async»), ("bigint", «bigint»),
  ("boolean", «boolean»), ("constructor", «constructor»), ("declare", «declare»),
  ("defer", «defer»), ("from", «from»), ("get", «get»), ("global", «global»), ("infer", «infer»),
  ("intrinsic", «intrinsic»), ("is", «is»), ("keyof", «keyof»), ("meta", «meta»),
  ("module", «module»), ("namespace", «namespace»), ("never", «never»), ("number", «number»),
  ("object", «object»), ("of", «of»), ("out", «out»), ("override", «override»),
  ("readonly", «readonly»), ("require", «require»), ("satisfies", «satisfies»), ("set", «set»),
  ("source", «source»), ("string", «string»), ("symbol", «symbol»), ("target", «target»),
  ("type", «type»), ("undefined", «undefined»), ("unique", «unique»), ("unknown", «unknown»),
  ("using", «using»)]

/-- All words that mean something, as texts. -/
def table : List (Text × Word) :=
  (reserved ++ restricted ++ contextual).map fun (name, word) => (name.toList, word)

/-- What a word means. -/
def ofText (s : Text) : Word :=
  match table.find? fun entry => entry.1 == s with
  | some (_, word) => word
  | none => plain

/-- Whether the word is never a name. -/
def isReserved (w : Word) : Bool := reserved.any fun entry => entry.2 == w

/-- Whether the word can be a name anywhere. -/
def isIdentifier (w : Word) : Bool := !w.isReserved && w != «yield»

/-- Whether the word can name something that is declared. -/
def isBinding (w : Word) : Bool := w.isIdentifier || w == «yield» || w == «await»

end Word

/-! ### Punctuators -/

/-- A punctuator. -/
inductive Punct where
  | openBrace | closeBrace | openParen | closeParen | openBracket | closeBracket | dot | ellipsis
  | semicolon | comma | colon | question | optionalDot | nullish | arrow | at | less | greater
  | lessEq | greaterEq | eqEq | notEq | eqEqEq | notEqEq | plus | minus | star | slash | percent
  | power | increment | decrement | shiftLeft | shiftRight | shiftRightZero | bitAnd | bitOr
  | bitXor | not | tilde | and | or | eq | plusEq | minusEq | starEq | slashEq | percentEq
  | powerEq | shiftLeftEq | shiftRightEq | shiftRightZeroEq | bitAndEq | bitOrEq | bitXorEq
  | andEq | orEq | nullishEq
deriving DecidableEq, Repr

/-! ### Tokens -/

/-- A token. -/
inductive Token where
  /-- A word; `escaped` when part of it is written as a character escape. -/
  | word (word : Word) (escaped : Bool)
  /-- A name after a number sign. -/
  | privateName
  | number
  | bigint
  | string
  | regex
  /-- A stretch of a template string, from its backtick or from the brace that ends an expression
  in it; `last` when it goes up to the closing backtick, `valid` when its escapes have a
  meaning. -/
  | template (last valid : Bool)
  /-- Text between embedded tags. -/
  | markupText
  /-- A string that is the value of an attribute, where a backslash means nothing. -/
  | markupString
  | punct (p : Punct)
  /-- Characters that are no token. -/
  | bad
  | endOfInput
deriving DecidableEq, Repr

/-- A token at its place. -/
structure Lexeme where
  token : Token
  span : Span
  /-- Whether a line ends between the token before it and this one. -/
  afterLineEnd : Bool
  /-- The characters of a word, with its escapes resolved, or of a string as it is written. -/
  name : Text := []
deriving DecidableEq, Repr

end OneFile.Script
