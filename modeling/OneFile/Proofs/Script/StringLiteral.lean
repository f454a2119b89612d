import Mathlib.Data.List.Basic
import Mathlib.Tactic.SplitIfs
import OneFile.Script.Lexer

/-!
# The values of string literals

A script reads a string literal between double quotes character by character. A backslash starts an
escape, which can take several characters and stands for other ones, or for none. The literal ends
at the first quote that is not escaped, and may not go over the end of a line. Its value is a list
of 16-bit units, as every string of a script is.

An escape stands for fewer units than it is written with. So a text without escapes, quotes and
line ends is read back from between quotes as it is, and no other text is.

## Main definitions

* `OneFile.Script.Pending` — what has been read of a literal beyond its last whole character.
* `OneFile.Script.literals` — the values of the string literals of code.
* `OneFile.Script.isPlain` — the characters that stand for themselves.

## Main results

* `OneFile.Script.adds_of_step` — what a character adds to the value is not longer than it is.
* `OneFile.Script.literals_of_plain` — plain text is read back as it is.
* `OneFile.Script.plain_of_literals` — text that is read back as it is is plain.
-/

namespace OneFile.Script

/-! ### Units -/

/-- The units of a code point: itself, or a pair of surrogates. -/
def codeUnits (n : Nat) : List Nat :=
  if n < 0x10000 then [n] else [0xD800 + (n - 0x10000) / 0x400, 0xDC00 + (n - 0x10000) % 0x400]

/-- A text as the units of a string. -/
def units (s : Text) : List Nat := s.flatMap fun c => codeUnits c.toNat

/-- There is at least one unit and there are at most two. -/
lemma length_codeUnits (n : Nat) : 1 ≤ (codeUnits n).length ∧ (codeUnits n).length ≤ 2 := by
  unfold codeUnits
  split_ifs <;> simp

/-- Texts one after another have their units one after another. -/
lemma units_append (s t : Text) : units (s ++ t) = units s ++ units t := List.flatMap_append

/-- The units of a text are those of its first character, and of the others. -/
lemma units_cons (c : Char) (s : Text) : units (c :: s) = codeUnits c.toNat ++ units s :=
  List.flatMap_cons

/-! ### Reading literals -/

/-- What has been read of a literal beyond its last whole character. -/
inductive Pending where
  /-- Nothing. -/
  | none
  /-- The backslash of an escape. -/
  | backslash
  /-- An escaped carriage return, which a line feed may belong to. -/
  | lineEnd
  /-- An escaped zero, which no digit may follow. -/
  | zero
  /-- A code in hexadecimal digits, of which more than `left` are to come. -/
  | code (left value : Nat)
  /-- The letter of a code that comes as four digits or in braces. -/
  | letter
  /-- A code in braces, with its value if it has digits yet. -/
  | braced (value : Option Nat)
deriving DecidableEq, Repr

/-- Whether the literal may end here. -/
def Pending.isWhole : Pending → Bool
  | .none | .lineEnd | .zero => true
  | .backslash | .code .. | .letter | .braced _ => false

/-- Reads a character of a literal that is not escaped. -/
def readPlain (c : Char) : Option (Pending × List Nat) :=
  if c = '\\' then some (.backslash, [])
  else if c = '\n' ∨ c = '\r' then none
  else some (.none, codeUnits c.toNat)

/-- The letters that are controls after a backslash, and their codes. -/
def controls : List (Char × Nat) :=
  [('b', 8), ('t', 9), ('n', 10), ('v', 11), ('f', 12), ('r', 13)]

/-- Reads the character after a backslash. No digit but zero may be escaped. -/
def readEscaped (c : Char) : Option (Pending × List Nat) :=
  if c = 'x' then some (.code 1 0, [])
  else if c = 'u' then some (.letter, [])
  else if c = '0' then some (.zero, [0])
  else if c.isDigit then none
  else if c = '\r' then some (.lineEnd, [])
  else if endsLine c then some (.none, [])
  else some (.none, ((controls.lookup c).map ([·])).getD (codeUnits c.toNat))

/-- **Reads one character of a literal**: what is pending then, and the units that are complete.
`none` for a character that may not stand there. -/
def step : Pending → Char → Option (Pending × List Nat)
  | .none, c => readPlain c
  | .backslash, c => readEscaped c
  | .lineEnd, c => if c = '\n' then some (.none, []) else readPlain c
  | .zero, c => if c.isDigit then none else readPlain c
  | .code 0 value, c => (hexDigit? c).map fun d => (.none, [value * 16 + d])
  | .code (left + 1) value, c => (hexDigit? c).map fun d => (.code left (value * 16 + d), [])
  | .letter, c =>
    if c = '{' then some (.braced none, []) else (hexDigit? c).map fun d => (.code 2 d, [])
  | .braced value, c =>
    if c = '}' then value.map fun n => (.none, codeUnits n)
    else (hexDigit? c).bind fun d =>
      if value.getD 0 * 16 + d ≤ 0x10FFFF then some (.braced (some (value.getD 0 * 16 + d)), [])
      else none

/-- The values of the literals of code from a place in it on, which is outside of literals or within
one, of which some units have been read. -/
def literalsFrom : Option (Pending × List Nat) → Text → Option (List (List Nat))
  | none, [] => some []
  | some _, [] => none
  | none, c :: s => literalsFrom (if c = '"' then some (.none, []) else none) s
  | some (pending, value), c :: s =>
    if c = '"' ∧ pending.isWhole then (literalsFrom none s).map (value :: ·)
    else
      match step pending c with
      | none => none
      | some (pending', more) => literalsFrom (some (pending', value ++ more)) s

/-- **The values of the string literals of code**, from left to right, for code that has nothing
else with quotes in it. `none` if a literal is broken. -/
def literals (code : Text) : Option (List (List Nat)) := literalsFrom none code

/-- A code unit may be written in digits, and an escaped line end stands for nothing. -/
example : literals "\"\\x41\\u\x7b1F600\x7d\\u0062\" \"\\\n\\\"\\n\"".toList =
    some [[0x41, 0xD83D, 0xDE00, 0x62], [0x22, 10]] := by decide +kernel

/-! ### Plain text -/

/-- The characters that stand for themselves in a literal. -/
def isPlain (c : Char) : Bool := c != '"' && c != '\\' && c != '\n' && c != '\r'

/-- The four kinds of characters that do not stand for themselves. -/
lemma isPlain_eq_false {c : Char} :
    isPlain c = false ↔ c = '"' ∨ c = '\\' ∨ c = '\n' ∨ c = '\r' := by
  simp only [isPlain, Bool.and_eq_false_iff, bne_eq_false_iff_eq, or_assoc]

/-- A plain character adds its own units. -/
lemma step_plain {c : Char} (h : isPlain c = true) :
    step .none c = some (.none, codeUnits c.toNat) := by
  simp only [isPlain, Bool.and_eq_true, bne_iff_ne] at h
  rw [step, readPlain, if_neg h.1.1.2, if_neg (not_or_intro h.1.2 h.2)]

/-- Code without quotes has no literals. -/
lemma literals_append {before : Text} (h : '"' ∉ before) (s : Text) :
    literals (before ++ s) = literals s := by
  unfold literals
  induction before with
  | nil => rfl
  | cons c before ih =>
    obtain ⟨hc, hbefore⟩ := List.ne_and_not_mem_of_not_mem_cons h
    rw [List.cons_append, literalsFrom, if_neg hc.symm, ih hbefore]

/-- A quote starts a literal. -/
lemma literals_quote (s : Text) : literals ('"' :: s) = literalsFrom (some (.none, [])) s := by
  rw [literals, literalsFrom, if_pos rfl]

/-- Plain text adds its own units to a value. -/
lemma literalsFrom_plain {t : Text} (h : t.all isPlain = true) (value : List Nat) (s : Text) :
    literalsFrom (some (.none, value)) (t ++ s) =
      literalsFrom (some (.none, value ++ units t)) s := by
  induction t generalizing value with
  | nil => simp [units]
  | cons c t ih =>
    rw [List.all_cons, Bool.and_eq_true] at h
    have hquote : c ≠ '"' := by
      rintro rfl
      exact absurd h.1 (by decide)
    rw [List.cons_append, literalsFrom, if_neg fun hend => hquote hend.1, step_plain h.1]
    simp only [ih h.2, units_cons, List.append_assoc]

/-- A quote ends a literal with nothing pending. -/
lemma literalsFrom_quote (value : List Nat) (s : Text) :
    literalsFrom (some (.none, value)) ('"' :: s) = (literals s).map (value :: ·) := by
  rw [literalsFrom, if_pos ⟨rfl, rfl⟩, literals]

/-- **Plain text is read back as it is.** -/
theorem literals_of_plain {t : Text} (ht : t.all isPlain = true) (s : Text) :
    literals ('"' :: (t ++ '"' :: s)) = (literals s).map (units t :: ·) := by
  rw [literals_quote, literalsFrom_plain ht, literalsFrom_quote, List.nil_append]

/-- What is not plain has a first character that is not. -/
lemma exists_first_not_plain {t : Text} (h : t.all isPlain = false) :
    ∃ start c rest, t = start ++ c :: rest ∧ start.all isPlain = true ∧ isPlain c = false := by
  obtain ⟨c, hfind⟩ : ∃ c, t.find? (!isPlain ·) = some c := by
    rw [← Option.isSome_iff_exists, List.find?_isSome]
    simpa using h
  obtain ⟨hc, start, rest, ht, hstart⟩ := List.find?_eq_some_iff_append.1 hfind
  exact ⟨start, c, rest, ht, by simpa using hstart, by simpa using hc⟩

/-- A line that ends within a literal breaks it. -/
lemma literalsFrom_lineEnd {c : Char} (hc : c = '\n' ∨ c = '\r') (value : List Nat) (s : Text) :
    literalsFrom (some (.none, value)) (c :: s) = none := by
  obtain rfl | rfl := hc <;> rfl

/-! ### How long values are -/

/-- How many units may still be owed: of a code in braces its last brace completes two. -/
def Pending.owed : Pending → Nat
  | .braced (some _) => 1
  | _ => 0

/-- **What reading a character does** where `owed` units are owed: it adds no more than it is long,
and starts an escape only if it is a backslash. -/
structure Adds (owed : Nat) (c : Char) (pending : Pending) (more : List Nat) : Prop where
  length_le : more.length + pending.owed ≤ owed + (codeUnits c.toNat).length
  eq_backslash : pending = .backslash → c = '\\'

/-- At most one unit may always be added. -/
lemma Adds.of_le {owed : Nat} {c : Char} {pending : Pending} {more : List Nat}
    (hlength : more.length + pending.owed ≤ owed + 1) (hpending : pending ≠ .backslash) :
    Adds owed c pending more := by
  have hpos := (length_codeUnits c.toNat).1
  exact ⟨by omega, fun h => absurd h hpending⟩

/-- What reading a character that is not escaped does. -/
lemma adds_of_readPlain {pending : Pending} {c : Char} {more : List Nat}
    (h : readPlain c = some (pending, more)) : Adds 0 c pending more := by
  unfold readPlain at h
  split_ifs at h with hbackslash <;> cases h
  · exact ⟨by simp [Pending.owed], fun _ => hbackslash⟩
  · exact ⟨by simp [Pending.owed], nofun⟩

/-- What reading a character after a backslash does. -/
lemma adds_of_readEscaped {pending : Pending} {c : Char} {more : List Nat}
    (h : readEscaped c = some (pending, more)) : Adds 0 c pending more := by
  have hcontrol : (((controls.lookup c).map ([·])).getD (codeUnits c.toNat)).length ≤
      (codeUnits c.toNat).length := by
    cases controls.lookup c with
    | none => exact Nat.le_refl _
    | some n => exact (length_codeUnits c.toNat).1
  unfold readEscaped at h
  -- The letters `x` and `u`, zero, a carriage return, another line end, and all else.
  split_ifs at h <;> cases h
  · exact .of_le (by decide) nofun
  · exact .of_le (by decide) nofun
  · exact .of_le (by decide) nofun
  · exact .of_le (by decide) nofun
  · exact .of_le (by decide) nofun
  · exact ⟨by simpa [Pending.owed] using hcontrol, nofun⟩

/-- **What reading a character of a literal does.** -/
lemma adds_of_step {pending pending' : Pending} {c : Char} {more : List Nat}
    (h : step pending c = some (pending', more)) : Adds pending.owed c pending' more := by
  cases pending with
  | none => exact adds_of_readPlain h
  | backslash => exact adds_of_readEscaped h
  | lineEnd =>
    rw [step] at h
    split_ifs at h
    · cases h
      exact .of_le (by decide) nofun
    · exact adds_of_readPlain h
  | zero =>
    rw [step] at h
    split_ifs at h
    exact adds_of_readPlain h
  | code left value =>
    cases left with
    | zero =>
      obtain ⟨d, -, hd⟩ := Option.map_eq_some_iff.1 h
      cases hd
      exact .of_le (by simp [Pending.owed]) nofun
    | succ left =>
      obtain ⟨d, -, hd⟩ := Option.map_eq_some_iff.1 h
      cases hd
      exact .of_le (by simp [Pending.owed]) nofun
  | letter =>
    rw [step] at h
    split_ifs at h
    · cases h
      exact .of_le (by decide) nofun
    · obtain ⟨d, -, hd⟩ := Option.map_eq_some_iff.1 h
      cases hd
      exact .of_le (by simp [Pending.owed]) nofun
  | braced value =>
    rw [step] at h
    split_ifs at h
    · obtain ⟨n, rfl, hn⟩ := Option.map_eq_some_iff.1 h
      cases hn
      exact .of_le (length_codeUnits n).2 nofun
    · obtain ⟨d, -, hd⟩ := Option.bind_eq_some_iff.1 h
      split_ifs at hd
      cases hd
      exact .of_le (Nat.le_add_left ..) nofun

/-- A quote that neither ends the literal nor is escaped breaks it. -/
lemma step_quote {pending : Pending} (h : pending.isWhole = false) (hne : pending ≠ .backslash) :
    step pending '"' = none := by
  have hdigit : hexDigit? '"' = none := by decide
  cases pending with
  | none | lineEnd | zero => cases h
  | backslash => exact absurd rfl hne
  | code left value => cases left <;> rw [step, hdigit, Option.map_none]
  | letter => rw [step, if_neg (by decide), hdigit, Option.map_none]
  | braced value => rw [step, if_neg (by decide), hdigit, Option.bind_none]

/-- **A literal ends at the first quote that no backslash comes right before**, and is not longer
up to there than what it is written with.

**Proof sketch.** Induction on what comes before the quote, by `adds_of_step`: only a backslash
leaves a state in which the quote could be escaped. -/
theorem length_le_of_literalsFrom {pending : Pending} {value first : List Nat}
    {others : List (List Nat)} {t s : Text}
    (h : literalsFrom (some (pending, value)) (t ++ '"' :: s) = some (first :: others))
    (hpending : t = [] → pending ≠ .backslash) (hlast : t.getLast? ≠ some '\\') :
    first.length ≤ value.length + pending.owed + (units t).length := by
  induction t generalizing pending value with
  | nil =>
    rw [List.nil_append, literalsFrom] at h
    cases hwhole : pending.isWhole with
    | false =>
      rw [if_neg (by simp [hwhole]), step_quote hwhole (hpending rfl)] at h
      cases h
    | true =>
      rw [if_pos ⟨rfl, hwhole⟩] at h
      obtain ⟨_, -, heq⟩ := Option.map_eq_some_iff.1 h
      cases heq
      omega
  | cons c t ih =>
    rw [List.cons_append, literalsFrom] at h
    split_ifs at h with hend
    · obtain ⟨_, -, heq⟩ := Option.map_eq_some_iff.1 h
      cases heq
      omega
    · split at h
      · cases h
      · rename_i pending' more hstep
        have hadds := adds_of_step hstep
        have hpending' : t = [] → pending' ≠ .backslash := by
          rintro rfl rfl
          exact hlast (by rw [hadds.eq_backslash rfl]; rfl)
        have hlast' : t.getLast? ≠ some '\\' := fun hd =>
          hlast (by rw [List.getLast?_cons, hd, Option.getD_some])
        have hle := ih h hpending' hlast'
        have hmore := hadds.length_le
        rw [units_cons]
        simp only [List.length_append] at hle ⊢
        omega

/-- What follows a backslash is not as long as it is written, the backslash included. -/
lemma length_lt_of_backslash {value first : List Nat} {others : List (List Nat)} {t s : Text}
    (h : literalsFrom (some (.none, value)) ('\\' :: (t ++ '"' :: s)) = some (first :: others))
    (hlast : ('\\' :: t).getLast? ≠ some '\\') :
    first.length < value.length + (units ('\\' :: t)).length := by
  have hstep : step .none '\\' = some (.backslash, []) := rfl
  rw [literalsFrom, if_neg fun hend => absurd hend.1 (by decide), hstep] at h
  have ht : t = [] → Pending.backslash ≠ .backslash := by
    rintro rfl
    exact absurd rfl hlast
  have hlast' : t.getLast? ≠ some '\\' := fun hd =>
    hlast (by rw [List.getLast?_cons, hd, Option.getD_some])
  have hle := length_le_of_literalsFrom h ht hlast'
  have hpos := (length_codeUnits '\\'.toNat).1
  rw [units_cons, List.length_append]
  simp only [List.append_nil, Pending.owed] at hle
  omega

/-- **Text that is read back as it is is plain**, if it does not end in a backslash.

**Proof sketch.** Look at its first character that is not plain. If it is a quote then the value
ends before it, if it ends a line then the literal is broken, and if it is a backslash then it adds
nothing itself, and what follows adds no more than it is written with. -/
theorem plain_of_literals {t s : Text} {others : List (List Nat)}
    (hlast : t.getLast? ≠ some '\\')
    (h : literals ('"' :: (t ++ '"' :: s)) = some (units t :: others)) : t.all isPlain = true := by
  by_contra hplain
  rw [Bool.not_eq_true] at hplain
  obtain ⟨start, c, rest, rfl, hstart, hc⟩ := exists_first_not_plain hplain
  have hlength := congrArg List.length (units_append start (c :: rest))
  rw [List.length_append] at hlength
  rw [literals_quote, List.append_assoc, literalsFrom_plain hstart, List.nil_append,
    List.cons_append] at h
  obtain rfl | rfl | hline := isPlain_eq_false.1 hc
  · rw [literalsFrom_quote] at h
    obtain ⟨_, -, heq⟩ := Option.map_eq_some_iff.1 h
    have hsame := congrArg List.length (List.cons.inj heq).1
    have hpos := (length_codeUnits '"'.toNat).1
    rw [units_cons, List.length_append] at hlength
    omega
  · have hlast' : ('\\' :: rest).getLast? ≠ some '\\' := fun hd =>
      hlast (by rw [List.getLast?_append, hd, Option.some_or])
    have hlt := length_lt_of_backslash h hlast'
    omega
  · rw [literalsFrom_lineEnd hline] at h
    cases h

end OneFile.Script
