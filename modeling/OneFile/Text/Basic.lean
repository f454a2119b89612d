/-!
# Text

Everything this library reads and writes is a sequence of characters, and every position in it is
counted in bytes of its UTF-8 form. A `Text` is the list of characters itself, so that parsers
recurse on it; byte counts are sums of `Char.utf8Size`.

## Main definitions

* `OneFile.Text` — a list of characters.
* `OneFile.Text.size` — its length in bytes.
* `OneFile.Text.dropBytes`, `OneFile.Text.takeBytes` — cutting at a byte offset.
* `OneFile.Text.breakOn` — the stretch before the first occurrence of a pattern.
* `OneFile.Text.lines`, `OneFile.Text.unlines` — splitting at line feeds and joining again.

## Main results

* `OneFile.Text.size_append` — byte lengths add up.
* `OneFile.Text.takeBytes_append_dropBytes` — a cut loses nothing.
* `OneFile.Text.breakOn_eq_some` — what `breakOn` returns puts together to its input.
-/

namespace OneFile

/-- A text, as the list of its characters. -/
abbrev Text := List Char

namespace Text

/-- Length in bytes of the UTF-8 form. -/
def size : Text → Nat
  | [] => 0
  | c :: s => c.utf8Size + size s

/-- No characters take no bytes. -/
@[simp] theorem size_nil : size [] = 0 := rfl

/-- A text takes the bytes of its first character, and of the others. -/
@[simp] theorem size_cons (c : Char) (s : Text) : size (c :: s) = c.utf8Size + size s := rfl

/-- Byte lengths add up. -/
@[simp] theorem size_append (s t : Text) : size (s ++ t) = size s + size t := by
  induction s with
  | nil => simp
  | cons c s ih => simp [ih, Nat.add_assoc]

/-- The bytes of the UTF-8 form. -/
def bytes (s : Text) : List UInt8 := s.flatMap String.utf8EncodeChar

/-! ### Cutting at byte offsets -/

/-- What follows the first `n` bytes. A character that straddles the cut is dropped. -/
def dropBytes : Nat → Text → Text
  | 0, s => s
  | _ + 1, [] => []
  | n + 1, c :: s => dropBytes (n + 1 - c.utf8Size) s

/-- The characters that start within the first `n` bytes. -/
def takeBytes : Nat → Text → Text
  | 0, _ => []
  | _ + 1, [] => []
  | n + 1, c :: s => c :: takeBytes (n + 1 - c.utf8Size) s

/-- A cut loses nothing. -/
theorem takeBytes_append_dropBytes (n : Nat) (s : Text) : takeBytes n s ++ dropBytes n s = s := by
  induction s generalizing n with
  | nil => cases n <;> rfl
  | cons c s ih => cases n with
    | zero => rfl
    | succ n => simp [takeBytes, dropBytes, ih]

/-! ### Searching -/

/-- Splits at the first occurrence of `pattern`: what comes before it and what comes after it. -/
def breakOn (pattern : Text) : Text → Option (Text × Text)
  | [] => if pattern.isEmpty then some ([], []) else none
  | c :: s =>
    if pattern <+: c :: s then some ([], (c :: s).drop pattern.length)
    else (breakOn pattern s).map fun (before, after) => (c :: before, after)

/-- What `breakOn` returns puts together to its input. -/
theorem breakOn_eq_some {pattern s before after : Text}
    (h : breakOn pattern s = some (before, after)) : s = before ++ pattern ++ after := by
  induction s generalizing before with
  | nil =>
    simp only [breakOn] at h
    split at h
    · rename_i hp
      simp only [Option.some.injEq, Prod.mk.injEq] at h
      simp [← h.1, ← h.2, List.isEmpty_iff.1 hp]
    · simp at h
  | cons c s ih =>
    simp only [breakOn] at h
    split at h
    · rename_i hstart
      simp only [Option.some.injEq, Prod.mk.injEq] at h
      rw [← h.1, ← h.2, List.nil_append, List.prefix_iff_eq_append.1 hstart]
    · obtain ⟨⟨b, a⟩, hb, he⟩ := Option.map_eq_some_iff.1 h
      simp only [Prod.mk.injEq] at he
      obtain ⟨rfl, rfl⟩ := he
      simp [ih hb]

/-- The text without `suffix`, if it ends in it. -/
def dropSuffix? (suffix s : Text) : Option Text :=
  (suffix.reverse.isPrefixOf? s.reverse).map List.reverse

/-! ### Lines -/

/-- The lines of a text: the stretches between line feeds. There is always at least one. -/
def lines : Text → List Text
  | [] => [[]]
  | c :: s =>
    if c = '\n' then [] :: lines s
    else match lines s with
      | [] => [[c]]
      | l :: ls => (c :: l) :: ls

/-- Joins lines by line feeds. -/
def unlines (ls : List Text) : Text := ['\n'].intercalate ls

/-! ### Small conversions -/

/-- A number in decimal digits. -/
def ofNat (n : Nat) : Text := Nat.toDigits 10 n

/-- ASCII letters in lower case, all else unchanged. -/
def lower (s : Text) : Text := s.map Char.toLower

/-- ASCII letters in upper case, all else unchanged. -/
def upper (s : Text) : Text := s.map Char.toUpper

end Text

end OneFile
