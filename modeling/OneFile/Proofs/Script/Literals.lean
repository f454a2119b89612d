import Mathlib.Tactic.SplitIfs
import OneFile.Proofs.Text.Boundary
import OneFile.Script.Lexer

/-!
# Names and literals

What the scanning of names, numbers, strings, template strings and regular expressions goes over.
The place that a scan returns is further on in the same text, at the right offset.

## Main definitions

* `OneFile.Script.StringBody`, `OneFile.Script.IsStringLiteral` — strings, as they are written.

## Main results

* `OneFile.Script.exists_reads_stringEnd` — what is read up to the closing quote is the body of a
  string.
* `OneFile.Script.before_afterNumber`, `OneFile.Script.before_templateEnd`,
  `OneFile.Script.before_regexEnd` — a scan ends at a later place.
* `OneFile.Script.exists_reads_lexName?` — what is read for a name is not empty.
-/

namespace OneFile.Script

open Cursor

/-! ### Characters of one byte -/

/-- A decimal digit takes one byte. -/
lemma utf8Size_of_isDigit {c : Char} (h : c.isDigit = true) : c.utf8Size = 1 := by
  simp only [Char.isDigit, Bool.and_eq_true, decide_eq_true_eq] at h
  exact Char.utf8Size_eq_one_iff.2 (UInt32.le_trans h.2 (by decide))

/-- A hexadecimal digit takes one byte. -/
lemma utf8Size_of_isHex {c : Char} (h : isHex c = true) : c.utf8Size = 1 := by
  simp only [isHex, hexDigit?] at h
  split_ifs at h with hdigit hlower hupper
  · exact utf8Size_of_isDigit hdigit
  · exact Char.utf8Size_eq_one_iff.2 (UInt32.le_trans hlower.2 (by decide))
  · exact Char.utf8Size_eq_one_iff.2 (UInt32.le_trans hupper.2 (by decide))
  · simp at h

/-- An octal digit takes one byte. -/
lemma utf8Size_of_isOctal {c : Char} (h : ('0' ≤ c && c ≤ '7') = true) : c.utf8Size = 1 := by
  simp only [Bool.and_eq_true, decide_eq_true_eq] at h
  exact Char.utf8Size_eq_one_iff.2 (UInt32.le_trans h.2 (by decide))

/-- A binary digit takes one byte. -/
lemma utf8Size_of_isBinary {c : Char} (h : (c == '0' || c == '1') = true) : c.utf8Size = 1 := by
  simp only [Bool.or_eq_true, beq_iff_eq] at h
  rcases h with rfl | rfl <;> rfl

/-! ### Strings -/

/-- **The characters between the quotes of a string.** The quote itself comes only after a
backslash, and so does the end of a line; a backslash takes the character after it along. -/
inductive StringBody (quote : Char) : Text → Prop
  | nil : StringBody quote []
  | plain {c : Char} {s : Text} (hquote : c ≠ quote) (hescape : c ≠ '\\')
      (hline : c ≠ '\n' ∧ c ≠ '\r') (hs : StringBody quote s) : StringBody quote (c :: s)
  | escape {c : Char} {s : Text} (hs : StringBody quote s) : StringBody quote ('\\' :: c :: s)
  | lineEnd {s : Text} (hs : StringBody quote s) :
      StringBody quote ('\\' :: '\r' :: '\n' :: s)

/-- **A string as it is written**: quotes of one kind around its characters. -/
def IsStringLiteral (s : Text) : Prop :=
  ∃ quote body, (quote = '"' ∨ quote = '\'') ∧ StringBody quote body ∧ s = quote :: body ++ [quote]

/-- **What is read up to the closing quote is the body of a string.** -/
lemma exists_reads_stringEnd {quote : Char} (hquote : quote.utf8Size = 1) {valid v : Bool}
    {o : Nat} {s : Text} {c' : Cursor} (h : stringEnd quote valid o s = some (v, c')) :
    ∃ body, StringBody quote body ∧ Cursor.Reads ⟨s, o⟩ (body ++ [quote]) c' := by
  fun_induction stringEnd quote valid o s with
  | case1 => simp at h
  | case2 valid o s ih =>
    obtain ⟨body, hbody, hreads⟩ := ih h
    exact ⟨_, .lineEnd hbody, (reads_ascii rfl _ o).trans
      ((reads_ascii rfl _ (o + 1)).trans ((reads_ascii rfl s (o + 2)).trans hreads))⟩
  | case3 valid o c s _ ih =>
    obtain ⟨body, hbody, hreads⟩ := ih h
    exact ⟨_, .escape hbody,
      ((reads_ascii rfl _ _).trans ((reads_cons c s (o + 1)).trans hreads))⟩
  | case4 valid o s =>
    simp only [Option.some.injEq, Prod.mk.injEq] at h
    obtain ⟨-, rfl⟩ := h
    exact ⟨[], .nil, reads_ascii hquote s o⟩
  | case5 => simp at h
  | case6 valid o c s _ hesc hne hline ih =>
    obtain ⟨body, hbody, hreads⟩ := ih h
    refine ⟨c :: body, .plain hne ?_ (not_or.1 hline) hbody, (reads_cons c s o).trans hreads⟩
    rintro rfl
    cases s with
    | nil => simp [stringEnd] at h
    | cons d s => exact hesc d s rfl rfl

/-! ### Templates and regular expressions -/

/-- A stretch of a template string ends at a later place. -/
lemma before_templateEnd {valid v last : Bool} {o : Nat} {s : Text} {c' : Cursor}
    (h : templateEnd valid o s = some (last, v, c')) : Cursor.Before ⟨s, o⟩ c' := by
  fun_induction templateEnd valid o s with
  | case1 => simp at h
  | case2 valid o c s ih =>
    exact .ascii (.trans ⟨_, reads_cons c s (o + 1)⟩ (ih h)) rfl
  | case3 valid o s =>
    simp only [Option.some.injEq, Prod.mk.injEq] at h
    obtain ⟨-, -, rfl⟩ := h
    exact .ascii (.ascii (.refl _) rfl) rfl
  | case4 valid o s =>
    simp only [Option.some.injEq, Prod.mk.injEq] at h
    obtain ⟨-, -, rfl⟩ := h
    exact .ascii (.refl _) rfl
  | case5 valid o c s _ _ _ ih => exact .trans ⟨_, reads_cons c s o⟩ (ih h)

/-- The body of a regular expression ends at a later place. -/
lemma before_regexEnd {inClass : Bool} {o : Nat} {s : Text} {c' : Cursor}
    (h : regexEnd inClass o s = some c') : Cursor.Before ⟨s, o⟩ c' := by
  fun_induction regexEnd inClass o s with
  | case1 => simp at h
  | case2 => simp at h
  | case3 inClass o c s _ ih => exact .ascii (.trans ⟨_, reads_cons c s (o + 1)⟩ (ih h)) rfl
  | case4 => simp at h
  | case5 inClass o c s _ _ hslash =>
    obtain rfl := Option.some.inj h
    obtain rfl := hslash.1
    exact .ascii (.refl _) rfl
  | case6 inClass o c s _ _ _ ih => exact .trans ⟨_, reads_cons c s o⟩ (ih h)

/-! ### Numbers -/

section Digits

variable {p : Char → Bool} (hp : ∀ c, p c = true → c.utf8Size = 1)

include hp

/-- Further digits end at a later place. -/
lemma before_afterDigits {o : Nat} {s : Text} {c' : Cursor} (h : afterDigits p o s = some c') :
    Cursor.Before ⟨s, o⟩ c' := by
  fun_induction afterDigits p o s with
  | case1 o c s hc ih => exact .ascii (.ascii (ih h) (hp c hc)) rfl
  | case2 => simp at h
  | case3 => simp at h
  | case4 o c s _ _ hc ih => exact .ascii (ih h) (hp c hc)
  | case5 o c s =>
    obtain rfl := Option.some.inj h
    exact .refl _
  | case6 o =>
    obtain rfl := Option.some.inj h
    exact .refl _

/-- A first digit and further ones end at a later place. -/
lemma before_afterFirstDigit {o : Nat} {s : Text} {c' : Cursor}
    (h : afterFirstDigit p o s = some c') : Cursor.Before ⟨s, o⟩ c' := by
  fun_cases afterFirstDigit p o s with
  | case1 c s hc =>
    rw [afterFirstDigit, if_pos hc] at h
    exact .ascii (before_afterDigits hp h) (hp c hc)
  | case2 c s hc => simp [afterFirstDigit, hc] at h
  | case3 => simp [afterFirstDigit] at h

end Digits

variable {c c' : Cursor}

/-- An exponent ends at a later place. -/
lemma before_afterExponent (h : afterExponent c = some c') : c.Before c' := by
  obtain ⟨s, o⟩ := c
  unfold afterExponent at h
  split at h
  · rename_i d s hs
    simp only at hs
    subst hs
    split_ifs at h with hd
    · have hd1 : d.utf8Size = 1 := by rcases hd with rfl | rfl <;> rfl
      split at h
      · exact .ascii (.ascii (before_afterFirstDigit (fun _ => utf8Size_of_isDigit) h) rfl) hd1
      · exact .ascii (.ascii (before_afterFirstDigit (fun _ => utf8Size_of_isDigit) h) rfl) hd1
      · exact .ascii (before_afterFirstDigit (fun _ => utf8Size_of_isDigit) h) hd1
    · obtain rfl := Option.some.inj h
      exact .refl _
  · obtain rfl := Option.some.inj h
    exact .refl _

/-- A fraction ends at a later place. -/
lemma before_afterPoint (h : afterPoint c = some c') : c.Before c' := by
  obtain ⟨s, o⟩ := c
  unfold afterPoint at h
  split at h
  · simp at h
  · rename_i d s _ hs
    simp only at hs
    subst hs
    split_ifs at h with hd
    · obtain ⟨c₁, h₁, h₂⟩ := Option.bind_eq_some_iff.1 h
      exact .trans (.ascii (before_afterDigits (fun _ => utf8Size_of_isDigit) h₁)
        (utf8Size_of_isDigit hd)) (before_afterExponent h₂)
    · exact before_afterExponent h
  · obtain rfl := Option.some.inj h
    exact .refl _

/-- What follows the whole part of a number ends at a later place. -/
lemma before_afterWhole (h : afterWhole c = some c') : c.Before c' := by
  obtain ⟨s, o⟩ := c
  unfold afterWhole at h
  split at h
  · rename_i s hs
    simp only at hs
    subst hs
    exact .ascii (before_afterPoint h) rfl
  · exact before_afterExponent h

/-- The mark of a big integer ends at a later place. -/
lemma before_afterBigMark (c : Cursor) : c.Before (afterBigMark c).2 := by
  obtain ⟨s, o⟩ := c
  unfold afterBigMark
  split
  · rename_i s hs
    simp only at hs
    subst hs
    exact .ascii (.refl _) rfl
  · exact .refl _

/-- Digits of some base, and the mark of a big integer, end at a later place. -/
lemma before_basedNumber {p : Char → Bool} (hp : ∀ c, p c = true → c.utf8Size = 1) {o : Nat}
    {s : Text} {big : Bool}
    (h : (afterFirstDigit p o s).map afterBigMark = some (big, c')) : Cursor.Before ⟨s, o⟩ c' := by
  obtain ⟨c₁, hdigits, hmark⟩ := Option.map_eq_some_iff.1 h
  have hbefore := before_afterBigMark c₁
  rw [hmark] at hbefore
  exact (before_afterFirstDigit hp hdigits).trans hbefore

/-- A number that is no big integer ends where its last part does. -/
lemma eq_some_of_map_false {x : Option Cursor} {big : Bool}
    (h : x.map ((false, ·)) = some (big, c')) : x = some c' := by
  obtain ⟨c₁, rfl, hc₁⟩ := Option.map_eq_some_iff.1 h
  rw [(Prod.mk.inj hc₁).2]

/-- A number ends at a later place than its first character. -/
lemma before_afterNumber {d : Char} {s : Text} {o : Nat} {big : Bool}
    (h : afterNumber ⟨d :: s, o⟩ = some (big, c')) : Cursor.Before ⟨s, o + 1⟩ c' := by
  unfold afterNumber at h
  dsimp only at h
  split at h
  · rename_i e t hs
    obtain ⟨-, rfl⟩ := List.cons.inj hs
    split_ifs at h with hx ho hb hdigit hlarge hn
    · exact (before_basedNumber (fun _ => utf8Size_of_isHex) h).ascii
        (by rcases hx with rfl | rfl <;> rfl)
    · exact (before_basedNumber (fun _ => utf8Size_of_isOctal) h).ascii
        (by rcases ho with rfl | rfl <;> rfl)
    · exact (before_basedNumber (fun _ => utf8Size_of_isBinary) h).ascii
        (by rcases hb with rfl | rfl <;> rfl)
    · exact (before_skipWhile _ _).trans (before_afterWhole (eq_some_of_map_false h))
    · obtain ⟨-, rfl⟩ := Prod.mk.inj (Option.some.inj h)
      exact before_skipWhile _ _
    · obtain ⟨-, rfl⟩ := Prod.mk.inj (Option.some.inj h)
      exact .ascii (.refl _) (by rw [hn]; rfl)
    · exact before_afterWhole (eq_some_of_map_false h)
  · rename_i t hs
    obtain ⟨-, rfl⟩ := List.cons.inj hs
    exact before_afterPoint (eq_some_of_map_false h)
  · rename_i t _ _ hs
    obtain ⟨-, rfl⟩ := List.cons.inj hs
    split at h
    · simp at h
    · rename_i after hdigits
      have hafter := before_afterDigits (fun _ => utf8Size_of_isDigit) hdigits
      split at h
      · rename_i after' hmark
        obtain ⟨-, rfl⟩ := Prod.mk.inj (Option.some.inj h)
        have hbig := before_afterBigMark after
        rw [hmark] at hbig
        exact hafter.trans hbig
      · exact hafter.trans (before_afterWhole (eq_some_of_map_false h))
  · simp at h

/-! ### Names -/

/-- What follows the escape of a code point is what is left of the text. -/
lemma suffix_unicodeEscape? {s rest : Text} {n : Nat} (h : unicodeEscape? s = some (n, rest)) :
    rest <:+ s := by
  unfold unicodeEscape? at h
  split at h
  · rename_i s
    split at h
    · rename_i after hdrop
      dsimp only at h
      split_ifs at h
      obtain ⟨-, rfl⟩ := Prod.mk.inj (Option.some.inj h)
      have hsuffix : '}' :: after <:+ s := hdrop ▸ List.dropWhile_suffix _
      exact ((List.suffix_cons ..).trans hsuffix).trans (List.suffix_cons ..)
    · simp at h
  · split_ifs at h
    simp only [Option.some.injEq, Prod.mk.injEq] at h
    obtain ⟨-, rfl⟩ := h
    exact List.suffix_append [_, _, _, _] _
  · simp at h

/-- What follows an escape in a name is what is left of the text. -/
lemma suffix_nameEscape? {s rest : Text} {c : Char} (h : nameEscape? s = some (c, rest)) :
    rest <:+ s := by
  unfold nameEscape? at h
  split at h
  · split at h
    · rename_i hescape
      simp only [Option.some.injEq, Prod.mk.injEq] at h
      obtain ⟨-, rfl⟩ := h
      exact (suffix_unicodeEscape? hescape).trans (List.suffix_cons ..)
    · simp at h
  · simp at h

/-- What follows a name with escapes is what is left of the text. -/
lemma suffix_escapedName {fuel : Nat} {s name rest : Text}
    (h : escapedName fuel s = some (name, rest)) :
    rest <:+ s.dropWhile Text.continuesName := by
  induction fuel generalizing s name with
  | zero => simp [escapedName] at h
  | succ fuel ih =>
    simp only [escapedName] at h
    split at h
    · rename_i t hdrop
      split at h
      · simp at h
      · rename_i c after hescape
        split_ifs at h
        obtain ⟨⟨name', rest'⟩, h₁, h₂⟩ := Option.map_eq_some_iff.1 h
        simp only [Prod.mk.injEq] at h₂
        obtain ⟨-, rfl⟩ := h₂
        rw [hdrop]
        exact (((ih h₁).trans (List.dropWhile_suffix _)).trans (suffix_nameEscape? hescape)).trans
          (List.suffix_cons ..)
    · obtain ⟨-, rfl⟩ := Prod.mk.inj (Option.some.inj h)
      exact List.suffix_rfl

/-- A name with an escape is longer than what comes before the escape. -/
lemma suffix_escapedName_of_escape {fuel : Nat} {s name rest t : Text}
    (h : escapedName fuel s = some (name, rest))
    (hdrop : s.dropWhile Text.continuesName = '\\' :: t) : rest <:+ t := by
  cases fuel with
  | zero => simp [escapedName] at h
  | succ fuel =>
    simp only [escapedName, hdrop] at h
    split at h
    · simp at h
    · rename_i c after hescape
      split_ifs at h
      obtain ⟨⟨name', rest'⟩, h₁, h₂⟩ := Option.map_eq_some_iff.1 h
      simp only [Prod.mk.injEq] at h₂
      obtain ⟨-, rfl⟩ := h₂
      exact ((suffix_escapedName h₁).trans (List.dropWhile_suffix _)).trans
        (suffix_nameEscape? hescape)

/-- **What is read for a name is not empty.** -/
lemma exists_reads_lexName? {name : Text} {escaped : Bool}
    (h : lexName? c = some (name, escaped, c')) : ∃ piece, piece ≠ [] ∧ c.Reads piece c' := by
  unfold lexName? at h
  simp only at h
  split_ifs at h with hstart
  split at h
  · rename_i t hafter
    split at h
    · simp at h
    · rename_i name' rest hescaped
      simp only [Option.some.injEq, Prod.mk.injEq] at h
      obtain ⟨-, -, rfl⟩ := h
      have hsuffix : '\\' :: t <:+ c.rest := by
        rw [← hafter]
        exact List.dropWhile_suffix _
      obtain ⟨before, hbefore⟩ := hsuffix
      obtain ⟨within, hwithin⟩ := suffix_escapedName_of_escape hescaped hafter
      have hrest : c.rest = (before ++ '\\' :: within) ++ rest := by simp [← hbefore, ← hwithin]
      have htake : c.rest.take (c.rest.length - rest.length) = before ++ '\\' :: within := by
        rw [hrest, List.length_append, Nat.add_sub_cancel, List.take_left]
      exact ⟨_, by simp, hrest, by rw [htake]⟩
  · rename_i hafter
    simp only [Option.some.injEq, Prod.mk.injEq] at h
    obtain ⟨-, -, rfl⟩ := h
    refine ⟨_, ?_, reads_skipWhile _ _⟩
    -- a name that starts with no character of names starts with an escape, and was read above
    intro hnil
    cases hrest : c.rest with
    | nil => simp [hrest, startsName] at hstart
    | cons d s =>
      have hd : Text.continuesName d = false := by
        by_contra hd
        rw [Bool.not_eq_false] at hd
        simp [hrest, hd] at hnil
      by_cases hescape : d = '\\'
      · subst hescape
        refine hafter s ?_
        simp [skipWhile, hrest, hd]
      · have hstarts : Text.startsName d = true := by
          simpa [hrest, startsName, hescape] using hstart
        simp [Text.continuesName, hstarts] at hd

end OneFile.Script
