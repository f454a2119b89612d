import Mathlib.Data.List.Nodup
import OneFile.Json.Reader
import OneFile.Json.Writer
import OneFile.Proofs.Text.Search

/-!
# Reading what was written

The text of a value is read as that value. It is cut into the tokens of the value, since all quotes
in a string are escaped and no more digits come after a number. And these build the value again,
since each array and object has room on the stack and no name comes twice.

## Main definitions

* `OneFile.Json.Legible` — values with a text that can be read, up to some depth.
* `OneFile.Json.tokens` — the tokens of a value.
* `OneFile.Json.Cuts` — a text is cut into tokens, in front of another text.
* `OneFile.Json.Builds` — the tokens of a value build it, wherever there is room for it.

## Main results

* `OneFile.Json.stringRest_escape`, `OneFile.Json.unsigned_ofNat` — strings and numbers are read up
  to where they end.
* `OneFile.Json.tokens?_write` — the tokens of a text that was written.
* `OneFile.Json.read?_write` — what is written is read back.
-/

namespace OneFile.Json

/-- **A value with a text that can be read**, where arrays and objects lie in each other up to some
depth. Its numbers are below 2^64, and no object has two members of one name. -/
inductive Legible : Nat → Json → Prop
  | null {depth : Nat} : Legible depth .null
  | bool {depth : Nat} (b : Bool) : Legible depth (.bool b)
  | nat {depth n : Nat} (hn : n < Nat.pow 2 64) : Legible depth (.nat n)
  | string {depth : Nat} (s : Text) : Legible depth (.string s)
  | array {depth : Nat} {items : List Json} (hitems : ∀ item ∈ items, Legible depth item) :
      Legible (depth + 1) (.array items)
  | object {depth : Nat} {members : List (Text × Json)}
      (hnames : (members.map Prod.fst).Nodup)
      (hmembers : ∀ member ∈ members, Legible depth member.2) :
      Legible (depth + 1) (.object members)

variable {rest : Text} {n : Nat}

/-! ### Numbers -/

/-- No number below ten but zero has zero for its digit. -/
lemma digitChar_eq_zero : ∀ d < 10, Nat.digitChar d = '0' → d = 0 := by
  decide

/-- No number but zero is written with a zero in front. -/
lemma eq_zero_of_head?_ofNat (h : (Text.ofNat n).head? = some '0') : n = 0 := by
  induction n using Nat.strong_induction_on with
  | h n ih =>
    by_cases hn : n < 10
    · rw [Text.ofNat, Nat.toDigits_of_lt_base hn, List.head?_cons, Option.some.injEq] at h
      exact digitChar_eq_zero n hn h
    · have hdigits : Text.ofNat n = Text.ofNat (n / 10) ++ [Nat.digitChar (n % 10)] :=
        Nat.toDigits_of_base_le (by decide) (by omega)
      rw [hdigits, List.head?_append_of_ne_nil (Text.ofNat _) Nat.toDigits_ne_nil] at h
      have hzero := ih (n / 10) (by omega) h
      omega

/-- The digits of a number have its value. -/
lemma digitsValue_ofNat (n : Nat) : digitsValue (Text.ofNat n) = n := by
  have hfold : digitsValue (Text.ofNat n) = Nat.ofDigitChars 10 (Nat.toDigits 10 n) 0 := by
    rw [digitsValue, Text.ofNat, Nat.ofDigitChars_eq_foldl]
    congr 1
    funext sofar c
    rw [Nat.mul_comm]
    rfl
  rw [hfold, Nat.ofDigitChars_ten_toDigits]

/-- A number below 2^64 is below the difference of two powers from there on. -/
lemma lt_pow_sub_pow (h : n < Nat.pow 2 64) {a b : Nat} (ha : 64 ≤ a) (hab : a < b) :
    n < Nat.pow 2 b - Nat.pow 2 a := by
  have hsmall : Nat.pow 2 64 ≤ 2 ^ a := Nat.pow_le_pow_right Nat.two_pos ha
  have hlarge : 2 ^ a * 2 ≤ 2 ^ b := Nat.pow_le_pow_right Nat.two_pos hab
  show n < 2 ^ b - 2 ^ a
  omega

/-- Numbers below 2^64 are not too large. -/
lemma tooLarge_eq_false (h : n < Nat.pow 2 64) : tooLarge n 0 = false := by
  have hscale : n * Nat.pow 10 (0 : Int).natAbs = n := Nat.mul_one n
  unfold tooLarge
  rw [hscale]
  -- The exponents are hidden, so that the powers are not computed.
  generalize ha : 970 = a
  generalize hb : 1024 = b
  have hbound := lt_pow_sub_pow h (show 64 ≤ a by omega) (show a < b by omega)
  split_ifs
  · rfl
  · omega
  · omega
  · exact decide_eq_false (Nat.not_le_of_lt hbound)

/-- A number begins with a zero only if it has no other digit. -/
lemma leadingZero_ofNat (n : Nat) : ((Text.ofNat n).isEmpty ||
    ((Text.ofNat n).head? == some '0' && decide ((Text.ofNat n).length > 1))) = false := by
  have hne : Text.ofNat n ≠ [] := Nat.toDigits_ne_nil
  by_cases hzero : (Text.ofNat n).head? = some '0'
  · rw [eq_zero_of_head?_ofNat hzero]
    rfl
  · simp [hne, hzero]

/-- What may come after a value: nothing, or what separates or closes. -/
def EndsValue (rest : Text) : Prop := ∀ c ∈ rest.head?, c = ',' ∨ c = ']' ∨ c = '}'

/-- A mark ends the value before it. -/
lemma endsValue_cons {c : Char} (h : c = ',' ∨ c = ']' ∨ c = '}') : EndsValue (c :: rest) := by
  intro d hd
  obtain rfl := Option.some.inj hd
  exact h

/-- **A number is read up to what ends it.** -/
lemma unsigned_ofNat (hn : n < Nat.pow 2 64) (hrest : EndsValue rest) :
    unsigned false (Text.ofNat n ++ rest) = some (.nat n, rest) := by
  have hdigits : ∀ c ∈ Text.ofNat n, c.isDigit = true := fun c hc =>
    Nat.isDigit_of_mem_toDigits (by decide) (by decide) hc
  have hnext : ∀ c ∈ rest.head?, c.isDigit = false ∧ c ≠ '.' ∧ ¬ (c = 'e' ∨ c = 'E') := by
    intro c hc
    rcases hrest c hc with rfl | rfl | rfl <;> decide
  have hstop : rest.head?.any Char.isDigit = false := by
    cases hc : rest.head? with
    | none => rfl
    | some c => exact (hnext c hc).1
  have htake := Text.takeWhile_append_of_stop hdigits hstop
  have hdrop := Text.dropWhile_append_of_stop hdigits hstop
  unfold unsigned
  simp only [htake, hdrop, leadingZero_ofNat]
  cases rest with
  | nil => simpa [digitsValue_ofNat, tooLarge_eq_false hn] using hn
  | cons c rest =>
    obtain ⟨-, hpoint, hexponent⟩ := hnext c rfl
    simpa [hpoint, hexponent, digitsValue_ofNat, tooLarge_eq_false hn] using hn

/-! ### Strings -/

/-- A hexadecimal digit has its value. -/
lemma hexValue?_digitChar : ∀ d < 16, hexValue? (Nat.digitChar d) = some d := by
  decide

/-- Four digits are read as what they were written for. -/
lemma hex4Value?_hex4 (h : n < 65536) :
    hex4Value? (Nat.digitChar (n / 4096 % 16)) (Nat.digitChar (n / 256 % 16))
      (Nat.digitChar (n / 16 % 16)) (Nat.digitChar (n % 16)) = some n := by
  have hdigit : ∀ m, hexValue? (Nat.digitChar (m % 16)) = some (m % 16) := fun m =>
    hexValue?_digitChar _ (Nat.mod_lt _ (by decide))
  rw [hex4Value?, hdigit, hdigit, hdigit, hdigit]
  show some _ = some n
  congr 1
  omega

/-- A character between quotes is read as itself. -/
lemma stringRest_escape_append (c : Char) (read s : Text) :
    stringRest read (escape c ++ s) = stringRest (c :: read) s := by
  unfold escape
  split_ifs with hquote hbackslash hnewline hreturn htab hcontrol
  · rw [hquote]
    rfl
  · rw [hbackslash]
    rfl
  · rw [hnewline]
    rfl
  · rw [hreturn]
    rfl
  · rw [htab]
    rfl
  · have hvalue := hex4Value?_hex4 (show c.toNat < 65536 by omega)
    have hplane : c.toNat < 0xD800 ∨ 0xDFFF < c.toNat := by omega
    show stringRest read ('\\' :: 'u' :: _ :: _ :: _ :: _ :: s) = _
    rw [stringRest, hvalue]
    dsimp only
    rw [if_pos hplane, Char.ofNat_toNat]
  · rw [List.singleton_append, stringRest, if_neg fun h => hcontrol (.inl h)]
    · exact hquote
    · exact fun _ _ _ _ _ h => absurd h hbackslash
    · exact fun _ _ h => absurd h hbackslash

/-- **A string is read up to its closing quote.** -/
lemma stringRest_escape (s read rest : Text) :
    stringRest read (s.flatMap escape ++ '"' :: rest) = some (read.reverse ++ s, rest) := by
  induction s generalizing read with
  | nil =>
    rw [List.flatMap_nil, List.nil_append, stringRest, List.append_nil]
  | cons c s ih =>
    rw [List.flatMap_cons, List.append_assoc, stringRest_escape_append, ih, List.reverse_cons,
      List.append_assoc]
    rfl

/-! ### Tokens -/

mutual

/-- The tokens of a value. -/
def tokens : Json → List Token
  | .string s => [.string s]
  | .array [] => [.openBracket, .closeBracket]
  | .array (item :: items) => .openBracket :: (tokens item ++ itemTokens items)
  | .object [] => [.openBrace, .closeBrace]
  | .object ((name, value) :: members) =>
    .openBrace :: .string name :: .colon :: (tokens value ++ memberTokens members)
  | j => [.atom j]

/-- The tokens of the further items of an array. -/
def itemTokens : List Json → List Token
  | [] => [.closeBracket]
  | item :: items => .comma :: (tokens item ++ itemTokens items)

/-- The tokens of the further members of an object. -/
def memberTokens : List (Text × Json) → List Token
  | [] => [.closeBrace]
  | (name, value) :: members =>
    .comma :: .string name :: .colon :: (tokens value ++ memberTokens members)

end

/-- **The text `s` is cut into tokens** in front of `rest`. There are no more of them than
characters. -/
def Cuts (s rest : Text) (ts : List Token) : Prop :=
  ts.length ≤ s.length ∧
    ∀ fuel, tokensWithin (fuel + ts.length) (s ++ rest) = (tokensWithin fuel rest).map (ts ++ ·)

variable {s t : Text} {ts us : List Token}

/-- Texts are cut one after the other. -/
lemma Cuts.append (hs : Cuts s (t ++ rest) ts) (ht : Cuts t rest us) :
    Cuts (s ++ t) rest (ts ++ us) := by
  refine ⟨?_, fun fuel => ?_⟩
  · rw [List.length_append, List.length_append]
    exact Nat.add_le_add hs.1 ht.1
  · have hlength : fuel + (ts ++ us).length = fuel + us.length + ts.length := by
      rw [List.length_append]
      omega
    rw [hlength, List.append_assoc, hs.2, ht.2, Option.map_map]
    congr 1
    funext vs
    exact (List.append_assoc ts us vs).symm

/-- A text that is one token. -/
lemma cuts_token {c : Char} {t' : Token} (hblank : isBlank c = false)
    (htoken : token (c :: s ++ rest) = some (t', rest)) : Cuts (c :: s) rest [t'] := by
  refine ⟨?_, fun fuel => ?_⟩
  · simp
  · have hdrop : (c :: s ++ rest).dropWhile isBlank = c :: s ++ rest := by
      rw [List.cons_append, List.dropWhile_cons_of_neg (by simp [hblank])]
    rw [List.length_singleton, tokensWithin, hdrop]
    simp only [List.cons_append] at htoken ⊢
    rw [htoken]
    rfl

/-- A mark is a token by itself. -/
lemma cuts_mark {c : Char} {t' : Token} (hblank : isBlank c = false)
    (htoken : ∀ rest, token (c :: rest) = some (t', rest)) : Cuts [c] rest [t'] :=
  cuts_token hblank (htoken rest)

/-- A string is one token. -/
lemma cuts_quote (s rest : Text) : Cuts (quote s) rest [.string s] := by
  refine cuts_token (by decide) ?_
  show (stringRest [] (s.flatMap escape ++ ['"'] ++ rest)).map _ = _
  rw [List.append_assoc, List.singleton_append, stringRest_escape]
  rfl

/-- A digit differs from what is no digit. -/
lemma ne_of_isDigit {c d : Char} (hc : c.isDigit = true) (hd : d.isDigit = false) : c ≠ d := by
  rintro rfl
  rw [hc] at hd
  cases hd

/-- A text that starts with a digit starts with a number. -/
lemma token_of_isDigit {c : Char} (hc : c.isDigit = true) :
    token (c :: s) = (unsigned false (c :: s)).map fun (j, s') => (.atom j, s') := by
  rw [token, if_pos hc]
  all_goals exact ne_of_isDigit hc rfl

/-- A number is one token. -/
lemma cuts_ofNat (hn : n < Nat.pow 2 64) (hrest : EndsValue rest) :
    Cuts (Text.ofNat n) rest [.atom (.nat n)] := by
  have hread := unsigned_ofNat hn hrest
  cases hdigits : Text.ofNat n with
  | nil => exact absurd hdigits Nat.toDigits_ne_nil
  | cons c s =>
    have hc : c.isDigit = true := by
      refine Nat.isDigit_of_mem_toDigits (b := 10) (n := n) (by decide) (by decide) ?_
      show c ∈ Text.ofNat n
      rw [hdigits]
      exact List.mem_cons_self ..
    rw [hdigits] at hread
    refine cuts_token ?_ ?_
    · simp [isBlank, ne_of_isDigit hc]
    · rw [List.cons_append, token_of_isDigit hc, ← List.cons_append, hread]
      rfl

/-! ### Values, cut into tokens -/

/-- What comes after an item or a member ends it. -/
lemma endsValue_writeItems (items : List Json) : EndsValue (writeItems items ++ rest) := by
  cases items with
  | nil => exact endsValue_cons (by decide)
  | cons item items => exact endsValue_cons (by decide)

/-- Further members, or the end of an object, end the value before them. -/
lemma endsValue_writeMembers (members : List (Text × Json)) :
    EndsValue (writeMembers members ++ rest) := by
  cases members with
  | nil => exact endsValue_cons (by decide)
  | cons member members => exact endsValue_cons (by decide)

/-- Further items are cut into tokens if each of them is. -/
lemma cuts_writeItems {items : List Json}
    (h : ∀ item ∈ items, ∀ rest, EndsValue rest → Cuts item.write rest item.tokens)
    (rest : Text) : Cuts (writeItems items) rest (itemTokens items) := by
  induction items with
  | nil => exact cuts_mark rfl fun _ => rfl
  | cons item items ih =>
    obtain ⟨hitem, hitems⟩ := List.forall_mem_cons.1 h
    have hothers := (hitem _ (endsValue_writeItems items)).append (ih hitems)
    exact Cuts.append (cuts_mark rfl fun _ => rfl) hothers

/-- A member is a name, a colon and a value. -/
lemma cuts_member (name : Text) {value : Json}
    (hvalue : Cuts value.write (t ++ rest) value.tokens) (ht : Cuts t rest ts) :
    Cuts (quote name ++ ':' :: value.write ++ t) rest
      (.string name :: .colon :: (value.tokens ++ ts)) := by
  have hothers := hvalue.append ht
  have hcolon : Cuts [':'] (value.write ++ t ++ rest) [.colon] := cuts_mark rfl fun _ => rfl
  have hname := cuts_quote name ([':'] ++ (value.write ++ t) ++ rest)
  rw [List.append_assoc]
  exact hname.append (hcolon.append hothers)

/-- Further members are cut into tokens if each of their values is. -/
lemma cuts_writeMembers {members : List (Text × Json)}
    (h : ∀ member ∈ members, ∀ rest, EndsValue rest →
      Cuts member.2.write rest member.2.tokens)
    (rest : Text) : Cuts (writeMembers members) rest (memberTokens members) := by
  induction members with
  | nil => exact cuts_mark rfl fun _ => rfl
  | cons member members ih =>
    obtain ⟨hmember, hmembers⟩ := List.forall_mem_cons.1 h
    have hothers := cuts_member member.1
      (hmember _ (endsValue_writeMembers members)) (ih hmembers)
    exact Cuts.append (cuts_mark rfl fun _ => rfl) hothers

/-- **A value is cut into its tokens.** -/
lemma cuts_write {depth : Nat} {j : Json} (h : Legible depth j) (rest : Text)
    (hrest : EndsValue rest) : Cuts j.write rest j.tokens := by
  induction h generalizing rest with
  | null => exact cuts_token rfl rfl
  | bool b => cases b <;> exact cuts_token rfl rfl
  | nat hn => exact cuts_ofNat hn hrest
  | string s => exact cuts_quote s rest
  | @array depth items hitems ih =>
    cases items with
    | nil =>
      have hopen : Cuts ['['] (']' :: rest) [.openBracket] := cuts_mark rfl fun _ => rfl
      exact hopen.append (cuts_mark rfl fun _ => rfl)
    | cons item items =>
      obtain ⟨hitem, hothers⟩ := List.forall_mem_cons.1 ih
      have hall := (hitem _ (endsValue_writeItems items)).append (cuts_writeItems hothers rest)
      exact Cuts.append (cuts_mark rfl fun _ => rfl) hall
  | @object depth members hnames hmembers ih =>
    cases members with
    | nil =>
      have hopen : Cuts ['{'] ('}' :: rest) [.openBrace] := cuts_mark rfl fun _ => rfl
      exact hopen.append (cuts_mark rfl fun _ => rfl)
    | cons member members =>
      obtain ⟨hmember, hothers⟩ := List.forall_mem_cons.1 ih
      have hall := cuts_member member.1 (hmember _ (endsValue_writeMembers members))
        (cuts_writeMembers hothers rest)
      exact Cuts.append (cuts_mark rfl fun _ => rfl) hall

/-- **The tokens of a text that was written** are those of the value. -/
theorem tokens?_write {depth : Nat} {j : Json} (h : Legible depth j) :
    tokens? j.write = some j.tokens := by
  have hends : EndsValue [] := fun c hc => (by cases hc)
  obtain ⟨hlength, hcuts⟩ := cuts_write h [] hends
  obtain ⟨fuel, hfuel⟩ : ∃ fuel, j.write.length + 1 = fuel + 1 + j.tokens.length :=
    ⟨j.write.length - j.tokens.length, by omega⟩
  rw [List.append_nil] at hcuts
  rw [tokens?, hfuel, hcuts]
  exact congrArg some (List.append_nil _)

/-! ### Values, built from their tokens -/

section Building

variable {depth : Nat} {j : Json} {stack : List Open}

/-- Members of different names are all the last ones of their names. -/
lemma lastOfEach_eq_self {members : List (Text × Json)} (h : (members.map Prod.fst).Nodup) :
    lastOfEach members = members := by
  induction members with
  | nil => rfl
  | cons member members ih =>
    rw [List.map_cons, List.nodup_cons] at h
    rw [lastOfEach, ih h.2, List.filter_eq_self.2]
    intro other hother
    have hne : other.1 ≠ member.1 := fun heq => h.1 (heq ▸ List.mem_map_of_mem hother)
    simpa using hne

/-- A value whose tokens build it, wherever there is room for it. -/
def Builds (depth : Nat) (j : Json) : Prop :=
  ∀ stack expect ts, expect = .value ∨ expect = .valueOrClose → stack.length + depth ≤ maxDepth →
    build? stack expect (j.tokens ++ ts) = build? stack (.after j) ts

/-- Further items are put to the items before them. -/
lemma build?_itemTokens {items : List Json} (h : ∀ item ∈ items, Builds depth item)
    (hroom : stack.length + 1 + depth ≤ maxDepth) (before : List Json) (last : Json)
    (ts : List Token) :
    build? (.array before :: stack) (.after last) (itemTokens items ++ ts) =
      build? stack (.after (.array ((last :: before).reverse ++ items))) ts := by
  induction items generalizing before last with
  | nil =>
    rw [List.append_nil]
    rfl
  | cons item items ih =>
    obtain ⟨hitem, hitems⟩ := List.forall_mem_cons.1 h
    have hnext := hitem (.array (last :: before) :: stack) .value (itemTokens items ++ ts)
      (.inl rfl) hroom
    rw [itemTokens, List.cons_append, List.append_assoc]
    show build? (.array (last :: before) :: stack) .value _ = _
    rw [hnext, ih hitems, List.reverse_cons (a := item), List.append_assoc]
    rfl

/-- Further members are put to the members before them. -/
lemma build?_memberTokens {members : List (Text × Json)}
    (h : ∀ member ∈ members, Builds depth member.2)
    (hroom : stack.length + 1 + depth ≤ maxDepth) (before : List (Text × Json)) (name : Text)
    (last : Json) (hnames : ((((name, last) :: before).reverse ++ members).map Prod.fst).Nodup)
    (ts : List Token) :
    build? (.object before name :: stack) (.after last) (memberTokens members ++ ts) =
      build? stack (.after (.object (((name, last) :: before).reverse ++ members))) ts := by
  induction members generalizing before name last with
  | nil =>
    rw [List.append_nil, List.map_reverse, List.nodup_reverse] at hnames
    rw [List.append_nil, memberTokens]
    show build? stack (.after (.object (lastOfEach ((name, last) :: before)).reverse)) ts = _
    rw [lastOfEach_eq_self hnames]
  | cons member members ih =>
    obtain ⟨hmember, hmembers⟩ := List.forall_mem_cons.1 h
    have hnext := hmember (.object ((name, last) :: before) member.1 :: stack) .value
      (memberTokens members ++ ts) (.inl rfl) hroom
    have hsame : ((member :: (name, last) :: before).reverse ++ members) =
        ((name, last) :: before).reverse ++ member :: members := by
      rw [List.reverse_cons, List.append_assoc]
      rfl
    have hothers := ih hmembers ((name, last) :: before) member.1 member.2 (hsame ▸ hnames)
    rw [memberTokens]
    show build? (.object ((name, last) :: before) member.1 :: stack) .value
      (member.2.tokens ++ memberTokens members ++ ts) = _
    rw [List.append_assoc, hnext, hothers]
    exact congrArg (fun all => build? stack (.after (.object all)) ts) hsame

/-- **The tokens of a value build it.** -/
lemma builds_tokens (h : Legible depth j) : Builds depth j := by
  induction h with
  | null => rintro stack expect ts (rfl | rfl) - <;> rfl
  | bool b => rintro stack expect ts (rfl | rfl) - <;> rfl
  | nat hn => rintro stack expect ts (rfl | rfl) - <;> rfl
  | string s => rintro stack expect ts (rfl | rfl) - <;> rfl
  | @array depth items hitems ih =>
    rintro stack expect ts hexpect hroom
    have hopen : stack.length < maxDepth := by omega
    have hbelow : stack.length + 1 + depth ≤ maxDepth := by omega
    cases items with
    | nil =>
      rcases hexpect with rfl | rfl
      all_goals
        show (if stack.length < maxDepth then _ else none) = _
        rw [if_pos hopen]
        rfl
    | cons item items =>
      obtain ⟨hitem, hothers⟩ := List.forall_mem_cons.1 ih
      have hfirst := hitem (.array [] :: stack) .valueOrClose (itemTokens items ++ ts) (.inr rfl)
        hbelow
      have hall := build?_itemTokens hothers hbelow [] item ts
      have hstart : build? stack expect ((array (item :: items)).tokens ++ ts) =
          if stack.length < maxDepth then
            build? (.array [] :: stack) .valueOrClose (item.tokens ++ itemTokens items ++ ts)
          else none := by
        rcases hexpect with rfl | rfl <;> rfl
      rw [hstart, if_pos hopen, List.append_assoc, hfirst, hall]
      rfl
  | @object depth members hnames hmembers ih =>
    rintro stack expect ts hexpect hroom
    have hopen : stack.length < maxDepth := by omega
    have hbelow : stack.length + 1 + depth ≤ maxDepth := by omega
    cases members with
    | nil =>
      rcases hexpect with rfl | rfl
      all_goals
        show (if stack.length < maxDepth then _ else none) = _
        rw [if_pos hopen]
        rfl
    | cons member members =>
      obtain ⟨hmember, hothers⟩ := List.forall_mem_cons.1 ih
      have hfirst := hmember (.object [] member.1 :: stack) .value (memberTokens members ++ ts)
        (.inl rfl) hbelow
      have hall := build?_memberTokens hothers hbelow [] member.1 member.2 hnames ts
      have hstart : build? stack expect ((object (member :: members)).tokens ++ ts) =
          if stack.length < maxDepth then
            build? (.object [] member.1 :: stack) .value
              (member.2.tokens ++ memberTokens members ++ ts)
          else none := by
        rcases hexpect with rfl | rfl <;> rfl
      rw [hstart, if_pos hopen, List.append_assoc, hfirst, hall]
      rfl

end Building

/-- **What is written is read back.** -/
theorem read?_write {j : Json} (h : Legible maxDepth j) : read? j.write = some j := by
  have hbuild := builds_tokens h [] .value [] (.inl rfl) (by decide)
  rw [List.append_nil] at hbuild
  rw [read?, tokens?_write h, Option.bind_some, hbuild]
  rfl

end OneFile.Json
