import OneFile.Proofs.Script.Literals
import OneFile.Proofs.Script.Trivia
import OneFile.Script.Grammar.Basic

/-!
# Tokens in a script

Where the tokens of a script stand: each one starts where its span says and goes up to the place
after it, and nothing but blanks and comments comes before it.

## Main definitions

* `OneFile.Script.Punct.spelling` — the characters of a punctuator.
* `OneFile.Script.Token.Spells` — what is known of the characters of a token.
* `OneFile.Script.Cuts` — a token is cut off at its place.
* `OneFile.Script.Follows` — a token comes next, after blanks and comments.

## Main results

* `OneFile.Script.Region.lex_follows` — the next token follows, whatever region it belongs to.
* `OneFile.Script.cutsAt_lexRegex`, `OneFile.Script.cutsAt_lexTemplate`,
  `OneFile.Script.cutsAt_lexGreater`, `OneFile.Script.cutsAt_lexTagName` — a token that is cut off
  anew stays at its place.
-/

namespace OneFile.Script

open Cursor

/-! ### Spellings -/

/-- The characters of a punctuator. -/
def Punct.spelling : Punct → Text
  | openBrace => ['{']
  | closeBrace => ['}']
  | openParen => ['(']
  | closeParen => [')']
  | openBracket => ['[']
  | closeBracket => [']']
  | dot => ['.']
  | ellipsis => ['.', '.', '.']
  | semicolon => [';']
  | comma => [',']
  | colon => [':']
  | question => ['?']
  | optionalDot => ['?', '.']
  | nullish => ['?', '?']
  | arrow => ['=', '>']
  | «at» => ['@']
  | less => ['<']
  | greater => ['>']
  | lessEq => ['<', '=']
  | greaterEq => ['>', '=']
  | eqEq => ['=', '=']
  | notEq => ['!', '=']
  | eqEqEq => ['=', '=', '=']
  | notEqEq => ['!', '=', '=']
  | plus => ['+']
  | minus => ['-']
  | star => ['*']
  | slash => ['/']
  | percent => ['%']
  | power => ['*', '*']
  | increment => ['+', '+']
  | decrement => ['-', '-']
  | shiftLeft => ['<', '<']
  | shiftRight => ['>', '>']
  | shiftRightZero => ['>', '>', '>']
  | bitAnd => ['&']
  | bitOr => ['|']
  | bitXor => ['^']
  | not => ['!']
  | tilde => ['~']
  | and => ['&', '&']
  | or => ['|', '|']
  | eq => ['=']
  | plusEq => ['+', '=']
  | minusEq => ['-', '=']
  | starEq => ['*', '=']
  | slashEq => ['/', '=']
  | percentEq => ['%', '=']
  | powerEq => ['*', '*', '=']
  | shiftLeftEq => ['<', '<', '=']
  | shiftRightEq => ['>', '>', '=']
  | shiftRightZeroEq => ['>', '>', '>', '=']
  | bitAndEq => ['&', '=']
  | bitOrEq => ['|', '=']
  | bitXorEq => ['^', '=']
  | andEq => ['&', '&', '=']
  | orEq => ['|', '|', '=']
  | nullishEq => ['?', '?', '=']

/-- No punctuator is empty. -/
lemma Punct.spelling_ne_nil (p : Punct) : p.spelling ≠ [] := by
  cases p <;> simp [spelling]

/-- **What is known of the characters of a token**: those of a punctuator are its spelling, and
those of a string make up a string as it is written. At the end there are none. -/
def Token.Spells : Token → Text → Prop
  | .punct p, s => s = p.spelling
  | .string, s => IsStringLiteral s
  | .endOfInput, s => s = []
  | _, s => s ≠ []

/-- A token has characters, except at the end. -/
lemma Token.Spells.ne_nil {token : Token} {s : Text} (h : token.Spells s)
    (hend : token ≠ .endOfInput) : s ≠ [] := by
  cases token with
  | punct p =>
    obtain rfl : s = p.spelling := h
    exact p.spelling_ne_nil
  | string =>
    obtain ⟨quote, body, -, -, rfl⟩ := h
    simp
  | endOfInput => exact absurd rfl hend
  | _ => exact h

/-! ### Where tokens stand -/

/-- **A token is cut off at a place**: it starts there and goes up to the place that comes with
it. The end of the script is where nothing is left. -/
structure Cuts (start : Cursor) (token : Text) (lexeme : Lexeme) (after : Cursor) : Prop where
  reads : start.Reads token after
  span_eq : lexeme.span = ⟨start.offset, after.offset⟩
  spells : lexeme.token.Spells token
  ends : lexeme.token = .endOfInput → after.rest = []

/-- A token is cut off at a place, whatever its characters are. -/
def CutsAt (start : Cursor) (cut : Lexeme × Cursor) : Prop :=
  ∃ token, Cuts start token cut.1 cut.2

/-- **A token comes next**, with nothing but blanks and comments before it. -/
def Follows (c : Cursor) (cut : Lexeme × Cursor) : Prop :=
  ∃ gap start, Trivia start.rest gap ∧ c.Reads gap start ∧ CutsAt start cut

variable {start c after : Cursor} {afterLineEnd : Bool}

/-- A token that goes up to a place, and is not the end of the script. -/
lemma cutsAt_lexeme {s : Text} {token : Token} {name : Text} (hreads : start.Reads s after)
    (hspells : token.Spells s) (hend : token ≠ .endOfInput) :
    CutsAt start (lexeme start.offset afterLineEnd token after name) :=
  ⟨s, hreads, rfl, hspells, fun h => absurd h hend⟩

/-- The end of the script. -/
lemma cutsAt_endOfInput (h : c.rest = []) :
    CutsAt c (lexeme c.offset afterLineEnd .endOfInput c) :=
  ⟨[], ⟨rfl, rfl⟩, rfl, rfl, fun _ => h⟩

/-- What is no token goes up to the end. -/
lemma cutsAt_lexBad {s : Text} (hreads : start.Reads s c) (hne : s ++ c.rest ≠ []) :
    CutsAt start (lexBad start.offset afterLineEnd c) :=
  cutsAt_lexeme (hreads.trans (t := c.rest) ⟨by simp, rfl⟩) hne nofun

/-- A token at the place itself follows. -/
lemma CutsAt.follows {cut : Lexeme × Cursor} (h : CutsAt c cut) : Follows c cut :=
  ⟨[], c, .nil, ⟨rfl, rfl⟩, h⟩

/-! ### Tokens of code -/

/-- A punctuator that is read is spelled by the characters that it is read from. -/
lemma lexPunct?_eq_some {s : Text} {p : Punct} {n : Nat} (h : lexPunct? s = some (p, n)) :
    s = p.spelling ++ s.drop n ∧ p.spelling.size = n := by
  unfold lexPunct? at h
  split at h <;> first
    | (obtain ⟨rfl, rfl⟩ := Prod.mk.inj (Option.some.inj h); exact ⟨rfl, rfl⟩)
    | skip
  · split_ifs at h <;> (obtain ⟨rfl, rfl⟩ := Prod.mk.inj (Option.some.inj h); exact ⟨rfl, rfl⟩)
  · simp at h

/-- A string of code is cut off at its place. -/
lemma cutsAt_string {quote : Char} (hquote : quote = '"' ∨ quote = '\'') {s name : Text} {o : Nat}
    {v : Bool} (h : stringEnd quote true (o + 1) s = some (v, after)) :
    CutsAt ⟨quote :: s, o⟩ (lexeme o afterLineEnd .string after name) := by
  have hsize : quote.utf8Size = 1 := by rcases hquote with rfl | rfl <;> rfl
  obtain ⟨body, hbody, hreads⟩ := exists_reads_stringEnd hsize h
  exact cutsAt_lexeme ((reads_ascii hsize s o).trans hreads) ⟨quote, body, hquote, hbody, rfl⟩ nofun

/-- The token of code at a place is cut off there. -/
lemma cutsAt_lexHere (afterLineEnd : Bool) (c : Cursor) : CutsAt c (lexHere afterLineEnd c) := by
  obtain ⟨s, o⟩ := c
  have hbad : s ≠ [] → CutsAt ⟨s, o⟩ (lexBad o afterLineEnd ⟨s, o⟩) := fun hne =>
    cutsAt_lexBad (s := []) ⟨rfl, rfl⟩ hne
  -- a token that starts with a character of one byte and ends at a later place
  have hlater : ∀ {d : Char} {t : Text} {token : Token} {name : Text} {after : Cursor},
      d.utf8Size = 1 → Cursor.Before ⟨t, o + 1⟩ after → (∀ u, u ≠ [] → token.Spells u) →
      token ≠ .endOfInput →
      CutsAt ⟨d :: t, o⟩ (lexeme o afterLineEnd token after name) := by
    rintro d t token name after hd ⟨u, hu⟩ hspells hend
    exact cutsAt_lexeme ((reads_ascii hd t o).trans hu) (hspells _ (List.cons_ne_nil d u)) hend
  unfold lexHere
  dsimp only
  cases s with
  | nil => exact cutsAt_endOfInput rfl
  | cons d s =>
    replace hbad := hbad (List.cons_ne_nil d s)
    dsimp only
    split_ifs with hquote htemplate hnumber hprivate
    · split
      · rename_i hstring
        exact cutsAt_string hquote hstring
      · exact hbad
    · subst htemplate
      split
      · rename_i hend
        exact hlater rfl (before_templateEnd hend) (fun _ => id) nofun
      · exact hbad
    · have hd : d.utf8Size = 1 := by
        simp only [Bool.or_eq_true, Bool.and_eq_true, beq_iff_eq] at hnumber
        rcases hnumber with h | ⟨rfl, -⟩
        · exact utf8Size_of_isDigit h
        · rfl
      split
      · rename_i big after hafter
        split_ifs
        · exact hlater hd (before_afterNumber hafter) (fun _ => id) nofun
        · exact hlater hd (before_afterNumber hafter) (fun _ => id) nofun
        · exact hbad
      · exact hbad
    · subst hprivate
      split
      · rename_i hname
        obtain ⟨piece, -, hreads⟩ := exists_reads_lexName? hname
        exact hlater rfl ⟨piece, hreads⟩ (fun _ => id) nofun
      · exact hbad
    · split
      · rename_i hname
        obtain ⟨piece, hne, hreads⟩ := exists_reads_lexName? hname
        exact cutsAt_lexeme hreads hne nofun
      · split
        · rename_i p n hpunct
          obtain ⟨hs, hsize⟩ := lexPunct?_eq_some hpunct
          exact cutsAt_lexeme ⟨hs, by rw [hsize]⟩ rfl nofun
        · exact hbad

/-- **The next token of code follows.** Where a comment has no end, what follows is no token. -/
lemma lex_follows (c : Cursor) : Follows c (lex c) := by
  unfold lex
  split
  · rename_i e c' hskip
    obtain ⟨gap, hgap, hreads⟩ := exists_reads_skipGap hskip
    exact ⟨gap, c', hgap, hreads, cutsAt_lexHere e c'⟩
  · rename_i hskip
    refine (cutsAt_lexBad (s := []) ⟨rfl, rfl⟩ fun hnil => ?_).follows
    rw [List.nil_append] at hnil
    simp [hnil, skipGap] at hskip

/-! ### Tokens of other places -/

/-- A regular expression is cut off where its slash is. -/
lemma cutsAt_lexRegex {s : Text} (h : start.Reads s c) (hne : s ≠ []) :
    CutsAt start (lexRegex start.offset afterLineEnd c) := by
  have hbad : CutsAt start (lexBad start.offset afterLineEnd c) := cutsAt_lexBad h (by simp [hne])
  unfold lexRegex
  split
  · exact hbad
  · rename_i body hbody
    dsimp only
    split_ifs
    · obtain ⟨t, ht⟩ := (before_regexEnd hbody).trans (before_skipWhile Text.continuesName body)
      exact cutsAt_lexeme (h.trans ht) (List.append_ne_nil_of_left_ne_nil hne t) nofun
    · exact hbad

/-- A further stretch of a template string is cut off where its brace is. -/
lemma cutsAt_lexTemplate {s : Text} (h : start.Reads s c) (hne : s ≠ []) :
    CutsAt start (lexTemplate start.offset c) := by
  unfold lexTemplate
  split
  · rename_i hend
    obtain ⟨t, ht⟩ := before_templateEnd hend
    exact cutsAt_lexeme (h.trans ht) (List.append_ne_nil_of_left_ne_nil hne t) nofun
  · exact cutsAt_lexBad h (by simp [hne])

/-- An operator that starts with a greater sign is cut off where that sign is. -/
lemma cutsAt_lexGreater (h : start.Reads ['>'] c) :
    CutsAt start (lexGreater start.offset afterLineEnd c) := by
  have hcut : ∀ {p : Punct} {n : Nat} (t : Text), c.rest = t ++ c.rest.drop n → t.size = n →
      p.spelling = '>' :: t → CutsAt start
        (lexeme start.offset afterLineEnd (.punct p) ⟨c.rest.drop n, c.offset + n⟩) :=
    fun t ht hsize hp => cutsAt_lexeme (h.trans ⟨ht, by rw [hsize]⟩) hp.symm nofun
  unfold lexGreater
  dsimp only
  split
  · rename_i hrest
    exact hcut ['>', '>', '='] (by simp [hrest]) rfl rfl
  · rename_i hrest
    exact hcut ['>', '>'] (by simp [hrest]) rfl rfl
  · rename_i hrest
    exact hcut ['>', '='] (by simp [hrest]) rfl rfl
  · rename_i hrest
    exact hcut ['>'] (by simp [hrest]) rfl rfl
  · rename_i hrest
    exact hcut ['='] (by simp [hrest]) rfl rfl
  · exact hcut [] rfl rfl rfl

/-- A name in a tag is cut off where its first characters are. -/
lemma cutsAt_lexTagName {s read : Text} (h : start.Reads s c) (hne : s ≠ []) :
    CutsAt start (lexTagName start.offset afterLineEnd read c) := by
  unfold lexTagName
  refine cutsAt_lexeme (h.trans (reads_skipWhile _ c)) ?_ nofun
  exact List.append_ne_nil_of_left_ne_nil hne _

/-- The next token between tags follows, with nothing before it. -/
lemma lexMarkupText_follows (c : Cursor) : Follows c (lexMarkupText c) := by
  obtain ⟨s, o⟩ := c
  refine CutsAt.follows ?_
  unfold lexMarkupText
  dsimp only
  split
  · exact cutsAt_endOfInput rfl
  · exact cutsAt_lexeme (reads_ascii rfl _ _) rfl nofun
  · exact cutsAt_lexeme (reads_ascii rfl _ _) rfl nofun
  · rename_i hnil hless hbrace
    refine cutsAt_lexeme (reads_skipWhile _ _) ?_ nofun
    cases s with
    | nil => exact absurd rfl hnil
    | cons d s =>
      have hd : d ≠ '<' ∧ d ≠ '{' := ⟨fun h => hless s (h ▸ rfl), fun h => hbrace s (h ▸ rfl)⟩
      simp [Token.Spells, hd.1, hd.2]

/-- The value of an attribute follows. -/
lemma lexMarkupValue_follows (c : Cursor) : Follows c (lexMarkupValue c) := by
  unfold lexMarkupValue
  split
  · rename_i hskip
    refine (cutsAt_lexBad (s := []) ⟨rfl, rfl⟩ fun hnil => ?_).follows
    rw [List.nil_append] at hnil
    simp [hnil, skipGap] at hskip
  · rename_i e c' hskip
    obtain ⟨gap, hgap, hreads⟩ := exists_reads_skipGap hskip
    refine ⟨gap, c', hgap, hreads, ?_⟩
    split
    · rename_i d s hrest
      split_ifs with hquote
      · split
        · rename_i value rest hbreak
          have hd : d.utf8Size = 1 := by rcases hquote with rfl | rfl <;> rfl
          refine cutsAt_lexeme (s := d :: value ++ [d]) ⟨?_, ?_⟩ (fun h => by simp at h) (by decide)
          · simp [hrest, Text.breakOn_eq_some hbreak]
          · simp [hd]
            omega
        · exact cutsAt_lexBad (s := []) ⟨rfl, rfl⟩ (by simp [hrest])
      · exact cutsAt_lexHere e c'
    · exact cutsAt_lexHere e c'

/-- **The next token follows**, whatever region it belongs to. -/
lemma Region.lex_follows (region : Region) (c : Cursor) : Follows c (region.lex c) := by
  cases region with
  | code => exact Script.lex_follows c
  | markupText => exact lexMarkupText_follows c
  | markupValue => exact lexMarkupValue_follows c

end OneFile.Script
