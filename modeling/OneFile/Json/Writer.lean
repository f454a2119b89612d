import OneFile.Json.Value

/-!
# Writing JSON

A value as text on one line. Control characters are escaped, and so are the characters outside
ASCII that some readers take for line ends.

## Main definitions

* `OneFile.Json.quote` — a string in quotes.
* `OneFile.Json.write` — any value.
-/

namespace OneFile.Json

/-- Four hexadecimal digits. -/
def hex4 (n : Nat) : Text :=
  [n / 4096 % 16, n / 256 % 16, n / 16 % 16, n % 16].map Nat.digitChar

/-- A character between quotes. -/
def escape (c : Char) : Text :=
  if c = '"' then ['\\', '"']
  else if c = '\\' then ['\\', '\\']
  else if c = '\n' then ['\\', 'n']
  else if c = '\r' then ['\\', 'r']
  else if c = '\t' then ['\\', 't']
  else if c.toNat < 0x20 ∨ c.toNat = 0x85 ∨ c.toNat = 0x2028 ∨ c.toNat = 0x2029 then
    '\\' :: 'u' :: hex4 c.toNat
  else [c]

/-- A string in quotes. -/
def quote (s : Text) : Text := '"' :: s.flatMap escape ++ ['"']

mutual

/-- A value as text. -/
def write : Json → Text
  | .null => "null".toList
  | .bool b => if b then "true".toList else "false".toList
  | .nat n => Text.ofNat n
  | .otherNumber => "0".toList
  | .string s => quote s
  | .array [] => "[]".toList
  | .array (item :: items) => '[' :: write item ++ writeItems items
  | .object [] => ['{', '}']
  | .object ((name, value) :: members) =>
    '{' :: quote name ++ ':' :: write value ++ writeMembers members

/-- The further items of an array, and its closing bracket. -/
def writeItems : List Json → Text
  | [] => [']']
  | item :: items => ',' :: write item ++ writeItems items

/-- The further members of an object, and its closing brace. -/
def writeMembers : List (Text × Json) → Text
  | [] => ['}']
  | (name, value) :: members => ',' :: quote name ++ ':' :: write value ++ writeMembers members

end

end OneFile.Json
