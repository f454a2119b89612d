import Mathlib.Data.List.Infix
import OneFile.Style.Tree

/-!
# Trees keep the text of a style sheet

Each token takes at least one character of a style sheet, and leaves what follows it to the next
one. So the texts of all tokens, one after another, are the style sheet. Matching brackets puts
tokens into blocks, and closes those that are left open where the style sheet ends; it neither adds
nor drops a text.

## Main definitions

* `OneFile.Style.Tree.rawOf` — the text read so far, while trees are built.

## Main results

* `OneFile.Style.lex_suffix` — a token takes its first character, and leaves the end of the text.
* `OneFile.Style.flatten_lexAll` — the texts of the tokens are the style sheet.
* `OneFile.Style.Tree.rawOf_push` — a token adds its own text to what is built.
* `OneFile.Style.Node.rawList_ofText` — the text of the trees is the style sheet.

## Design

A reader is judged by what it leaves, which is a suffix of what it was given. Readers that start
with a token leave a suffix of what follows its first character; for these something has to be
known of that character.
-/

namespace OneFile.Style

variable {s : Text} {c : Char}

/-! ### Names, strings and addresses -/

/-- A stretch with escapes leaves a suffix. -/
lemma readEscaped_suffix (plain : Char → Text → Option (Text × EscapeMode)) (mode : EscapeMode)
    (s : Text) : (readEscaped plain mode s).2 <:+ s := by
  induction s generalizing mode with
  | nil => exact List.suffix_rfl
  | cons c s ih =>
    rw [readEscaped]
    cases hstep : escapeStep plain c s mode with
    | none => exact List.suffix_rfl
    | some step =>
      obtain ⟨added, mode'⟩ := step
      exact (ih mode').trans (List.suffix_cons c s)

/-- It takes its first character if that belongs to it. -/
lemma readEscaped_cons_suffix {plain : Char → Text → Option (Text × EscapeMode)}
    (h : (plain c s).isSome) : (readEscaped plain .plain (c :: s)).2 <:+ s := by
  obtain ⟨⟨added, mode⟩, hstep⟩ := Option.isSome_iff_exists.1 h
  rw [readEscaped, escapeStep, hstep]
  exact readEscaped_suffix plain mode s

/-- A character that a name can start with belongs to it. -/
lemma isSome_namePlain_of_startsNameChar (h : startsNameChar c = true) :
    (namePlain c s).isSome := by
  by_cases hnull : c = '\x00'
  · subst hnull
    rfl
  · have hname : isNameChar c = true := by
      simp only [startsNameChar, isNameChar, Char.isAlphanum, Bool.or_eq_true, beq_iff_eq] at h ⊢
      tauto
    simp [namePlain, hname]

/-- A string leaves a suffix, whether its quote is closed or not. -/
lemma readString_suffix (quote : Char) (s : Text) : (readString quote s).2 <:+ s := by
  have hrest := readEscaped_suffix (stringPlain quote) .plain s
  unfold readString
  dsimp only
  split
  · exact List.nil_suffix
  · rename_i d after heq
    rw [heq] at hrest
    split
    · exact (List.suffix_cons d after).trans hrest
    · exact hrest

/-- A bad address leaves a suffix. -/
lemma afterBadUrl_suffix (s : Text) : afterBadUrl s <:+ s := by
  fun_induction afterBadUrl s with
  | case1 => exact List.suffix_rfl
  | case2 c s hc ih => exact ih.trans ((List.suffix_cons c s).trans (List.suffix_cons '\\' _))
  | case3 c s hc ih => exact ih.trans (List.suffix_cons '\\' _)
  | case4 s => exact List.suffix_cons ')' s
  | case5 c s _ _ ih => exact ih.trans (List.suffix_cons c s)

/-- An address leaves a suffix, good or bad. -/
lemma readUrl_suffix {read : Token × Text} (h : readUrl s = some read) : read.2 <:+ s := by
  have hrest : (readEscaped urlPlain .plain (s.dropWhile isSpace)).2 <:+ s :=
    (readEscaped_suffix urlPlain .plain _).trans (List.dropWhile_suffix _)
  have hgap : (readEscaped urlPlain .plain (s.dropWhile isSpace)).2.dropWhile isSpace <:+ s :=
    (List.dropWhile_suffix _).trans hrest
  unfold readUrl at h
  split at h
  · cases h
  · cases h
  · dsimp only at h
    split at h
    · cases h
      exact List.nil_suffix
    · rename_i after heq
      cases h
      rw [heq] at hgap
      exact (List.suffix_cons ')' after).trans hgap
    · cases h
      exact (afterBadUrl_suffix _).trans hrest

/-- A name, a call or an address takes its first character. -/
lemma readNamed_suffix (h : (namePlain c s).isSome) : (readNamed (c :: s)).2 <:+ s := by
  have hname : (readName (c :: s)).2 <:+ s := readEscaped_cons_suffix h
  unfold readNamed
  dsimp only
  split
  · rename_i after heq
    rw [heq] at hname
    have hafter : after <:+ s := (List.suffix_cons '(' after).trans hname
    split
    · cases hurl : readUrl after with
      | none => exact hafter
      | some read => exact (readUrl_suffix hurl).trans hafter
    · exact hafter
  · exact hname

/-! ### Numbers -/

/-- The digits of an exponent leave a suffix. -/
lemma readPower?_suffix {negative : Bool} {e : Int} {rest : Text}
    (h : readPower? negative s = some (e, rest)) : rest <:+ s := by
  unfold readPower? at h
  split at h
  · cases h
  · cases h
    exact List.dropWhile_suffix _

/-- An exponent leaves a suffix. -/
lemma readExponent?_suffix {e : Int} {rest : Text} (h : readExponent? s = some (e, rest)) :
    rest <:+ s := by
  unfold readExponent? at h
  split at h
  · rename_i c t
    split_ifs at h
    exact (readPower?_suffix h).trans ((List.suffix_cons '+' t).trans (List.suffix_cons c _))
  · rename_i c t
    split_ifs at h
    exact (readPower?_suffix h).trans ((List.suffix_cons '-' t).trans (List.suffix_cons c _))
  · rename_i c t _ _
    split_ifs at h
    exact (readPower?_suffix h).trans (List.suffix_cons c t)
  · cases h

/-- A fraction leaves a suffix. -/
lemma readFraction_suffix (s : Text) : (readFraction s).2 <:+ s := by
  unfold readFraction
  split
  · rename_i d t
    split
    · exact (List.dropWhile_suffix _).trans (List.suffix_cons '.' _)
    · exact List.suffix_rfl
  · exact List.suffix_rfl

/-- A number leaves a suffix of what its digits leave. -/
lemma readUnsigned_suffix (s : Text) :
    (readUnsigned s).2.2 <:+ (readFraction (s.dropWhile Char.isDigit)).2 := by
  unfold readUnsigned
  dsimp only
  split
  · exact readExponent?_suffix ‹_›
  · exact List.suffix_rfl

/-- A number takes its first character, which is a digit, or a point before one. -/
lemma readUnsigned_cons_suffix (h : startsNumber (c :: s) = true) :
    (readUnsigned (c :: s)).2.2 <:+ s := by
  refine (readUnsigned_suffix _).trans ?_
  by_cases hc : c.isDigit = true
  · rw [List.dropWhile_cons_of_pos hc]
    exact (readFraction_suffix _).trans (List.dropWhile_suffix _)
  · rw [List.dropWhile_cons_of_neg hc]
    unfold startsNumber at h
    split at h
    · rename_i d t heq
      cases heq
      rw [readFraction, if_pos h]
      exact List.dropWhile_suffix _
    · rename_i d t _ heq
      cases heq
      exact absurd h hc
    · cases h

/-- A percentage or dimension leaves a suffix of what its number leaves. -/
lemma readMagnitude_suffix {t : Text} (h : (readUnsigned s).2.2 <:+ t) (signed negative : Bool) :
    (readMagnitude signed negative s).2 <:+ t := by
  unfold readMagnitude
  dsimp only
  split
  · rename_i after heq
    rw [heq] at h
    exact (List.suffix_cons '%' after).trans h
  · split
    · exact (readEscaped_suffix namePlain .plain _).trans h
    · exact h

/-- A number takes its first character, be it a sign or not. -/
lemma readNumeric_suffix (h : c = '+' ∨ c = '-' ∨ startsNumber (c :: s) = true) :
    (readNumeric (c :: s)).2 <:+ s := by
  have hunsigned : (readUnsigned s).2.2 <:+ s :=
    (readUnsigned_suffix s).trans ((readFraction_suffix _).trans (List.dropWhile_suffix _))
  unfold readNumeric
  split
  · rename_i t heq
    cases heq
    exact readMagnitude_suffix hunsigned _ _
  · rename_i t heq
    cases heq
    exact readMagnitude_suffix hunsigned _ _
  · rename_i hplus hminus
    have hstarts : startsNumber (c :: s) = true := by
      rcases h with rfl | rfl | h
      · exact absurd rfl (hplus s)
      · exact absurd rfl (hminus s)
      · exact h
    exact readMagnitude_suffix (readUnsigned_cons_suffix hstarts) _ _

/-- A number may start with any of its digits. -/
lemma startsNumber_of_isDigit (h : c.isDigit = true) : startsNumber (c :: s) = true := by
  unfold startsNumber
  split
  · rename_i d t heq
    cases heq
    exact absurd h (by decide)
  · rename_i d t _ heq
    cases heq
    exact h
  · rename_i heq
    cases heq

/-- It may start with a point, if it goes on without another one. -/
lemma startsNumber_point (h : startsNumber s = true) (hpoint : s.head? ≠ some '.') :
    startsNumber ('.' :: s) = true := by
  cases s with
  | nil => cases h
  | cons d t =>
    have hd : d ≠ '.' := by simpa using hpoint
    rw [startsNumber.eq_2 d t fun _ _ hdot _ => hd hdot] at h
    exact h

/-! ### Tokens -/

/-- A comment leaves a suffix. -/
lemma afterComment_suffix (s : Text) : afterComment s <:+ s := by
  fun_induction afterComment s with
  | case1 => exact List.suffix_rfl
  | case2 s => exact (List.suffix_cons '/' s).trans (List.suffix_cons '*' _)
  | case3 c s _ ih => exact ih.trans (List.suffix_cons c s)

/-- **A token takes its first character**, and leaves a suffix of what follows it. -/
theorem lex_suffix (c : Char) (s : Text) : (lex c s).2 <:+ s := by
  have hname : (readName s).2 <:+ s := readEscaped_suffix namePlain .plain s
  unfold lex
  by_cases hspace : isSpace c = true
  · rw [if_pos hspace]
    exact List.dropWhile_suffix _
  rw [if_neg hspace]
  by_cases hstarts : startsNameChar c = true
  · rw [if_pos hstarts]
    exact readNamed_suffix (isSome_namePlain_of_startsNameChar hstarts)
  rw [if_neg hstarts]
  by_cases hdigit : c.isDigit = true
  · rw [if_pos hdigit]
    exact readNumeric_suffix (.inr (.inr (startsNumber_of_isDigit hdigit)))
  rw [if_neg hdigit]
  -- a character that is a token by itself leaves all that follows it
  split <;> try exact List.suffix_rfl
  · -- a string in double quotes
    exact readString_suffix _ s
  · -- a string in single quotes
    exact readString_suffix _ s
  · -- a number sign, perhaps before a name
    split_ifs
    · exact hname
    · exact hname
    · exact List.suffix_rfl
  · -- a plus sign, perhaps of a number
    split_ifs
    · exact readNumeric_suffix (.inl rfl)
    · exact List.suffix_rfl
  · -- a point, perhaps of a number
    split_ifs with hnumber
    · have hstart : startsNumber s = true ∧ s.head? ≠ some '.' := by
        simpa using hnumber
      exact readNumeric_suffix (.inr (.inr (startsNumber_point hstart.1 hstart.2)))
    · exact List.suffix_rfl
  · -- the end of a comment in markup
    rename_i t
    exact (List.suffix_cons '>' t).trans (List.suffix_cons '-' _)
  · -- a minus sign, perhaps of a number or in a name
    split_ifs
    · exact readNumeric_suffix (.inr (.inl rfl))
    · exact readNamed_suffix rfl
    · exact List.suffix_rfl
  · -- a comment
    rename_i t
    exact (afterComment_suffix t).trans (List.suffix_cons '*' t)
  · -- the start of a comment in markup
    rename_i t
    exact (List.suffix_cons '-' t).trans ((List.suffix_cons '-' _).trans (List.suffix_cons '!' _))
  · -- an at sign, perhaps before a name
    split_ifs
    · exact hname
    · exact List.suffix_rfl
  · -- a backslash, perhaps of a name that starts with an escape
    split_ifs with hline
    · exact List.suffix_rfl
    · exact readNamed_suffix (by simp [namePlain, isNameChar, hline])
  -- comparisons
  all_goals exact List.suffix_cons '=' _

/-- The texts of tokens are the text that they were cut from, if there may be enough of them. -/
lemma flatten_lexWithin {fuel : Nat} (h : s.length ≤ fuel) :
    ((lexWithin fuel s).map Prod.snd).flatten = s := by
  induction fuel generalizing s with
  | zero =>
    obtain rfl : s = [] := List.length_eq_zero_iff.1 (Nat.le_zero.1 h)
    rfl
  | succ fuel ih =>
    cases s with
    | nil => rfl
    | cons c s =>
      have hrest : (lex c s).2 <:+ s := lex_suffix c s
      have hcut : (c :: s).take (s.length + 1 - (lex c s).2.length) ++ (lex c s).2 = c :: s :=
        List.suffix_iff_eq_append.1 (hrest.trans (List.suffix_cons c s))
      have hlength : (lex c s).2.length ≤ fuel := by
        have hle := hrest.length_le
        rw [List.length_cons] at h
        omega
      rw [lexWithin, List.map_cons, List.flatten_cons, ih hlength, hcut]

/-- **The texts of all tokens are the style sheet.** -/
theorem flatten_lexAll (s : Text) : ((lexAll s).map Prod.snd).flatten = s :=
  flatten_lexWithin (Nat.le_refl _)

/-! ### Trees -/

/-- Lists of trees one after another have their texts one after another. -/
lemma Node.rawList_append (ns ms : List Node) :
    rawList (ns ++ ms) = rawList ns ++ rawList ms := by
  induction ns with
  | nil => rfl
  | cons n ns ih => rw [List.cons_append, rawList, rawList, ih, List.append_assoc]

namespace Tree

/-- The text read so far: that of the brackets that are not closed yet, from the outermost one on,
each after what came before it. -/
def rawOf : List Unclosed → List Node → Text
  | [], current => Node.rawList current.reverse
  | u :: rest, current => rawOf rest u.before ++ u.raw ++ Node.rawList current.reverse

/-- A tree adds its text. -/
lemma rawOf_cons (us : List Unclosed) (n : Node) (current : List Node) :
    rawOf us (n :: current) = rawOf us current ++ n.raw := by
  cases us <;> simp [rawOf, Node.rawList_append, Node.rawList]

/-- Closing a bracket adds the closing bracket, if there is one. -/
lemma rawOf_close (u : Unclosed) (rest : List Unclosed) (current : List Node) (closer : Text) :
    rawOf rest (.block u.opening u.raw current.reverse closer :: u.before) =
      rawOf (u :: rest) current ++ closer := by
  rw [rawOf_cons]
  simp [rawOf, Node.raw]

/-- **A token adds its own text** to what is built. -/
theorem rawOf_push (b : Building) (token : Token) (raw : Text) :
    rawOf (b.push token raw).unclosed (b.push token raw).current =
      rawOf b.unclosed b.current ++ raw := by
  cases token with
  | opening o => simp [Building.push, rawOf, Node.rawList]
  | closing c =>
    obtain ⟨us, current⟩ := b
    cases us with
    | nil => simp [Building.push, rawOf_cons, Node.raw]
    | cons u rest =>
      simp only [Building.push]
      split
      · exact rawOf_close u rest current raw
      · simp [rawOf_cons, Node.raw]
  | _ => simp [Building.push, rawOf_cons, Node.raw]

/-- Tokens add their texts in their order. -/
lemma rawOf_foldl (ts : List (Token × Text)) (b : Building) :
    let b' := ts.foldl (fun b (token, raw) => b.push token raw) b
    rawOf b'.unclosed b'.current = rawOf b.unclosed b.current ++ (ts.map Prod.snd).flatten := by
  induction ts generalizing b with
  | nil => simp
  | cons t ts ih =>
    obtain ⟨token, raw⟩ := t
    have hrest := ih (b.push token raw)
    rw [rawOf_push, List.append_assoc] at hrest
    exact hrest

/-- Closing all brackets adds nothing. -/
lemma rawList_finish (us : List Unclosed) (current : List Node) :
    Node.rawList (finish us current) = rawOf us current := by
  induction us generalizing current with
  | nil => rfl
  | cons u rest ih => rw [finish, ih, rawOf_close, List.append_nil]

end Tree

/-- The text of the trees of tokens is that of the tokens. -/
lemma Node.rawList_ofTokens (ts : List (Token × Text)) :
    rawList (ofTokens ts) = (ts.map Prod.snd).flatten := by
  have hbuilt := Tree.rawOf_foldl ts ⟨[], []⟩
  rw [ofTokens, Tree.rawList_finish]
  exact hbuilt

/-- **The text of the trees is the style sheet**: no character is lost or made, whatever brackets
there are. -/
theorem Node.rawList_ofText (s : Text) : rawList (ofText s) = s := by
  rw [ofText, rawList_ofTokens, flatten_lexAll]

end OneFile.Style
