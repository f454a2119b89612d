import OneFile.Proofs.Markup.Brace
import OneFile.Proofs.Text.Search

/-!
# The grammar of balanced braces

Which texts a scan from an opening brace accepts, said without the scan: a grammar of code in
braces, with strings, template strings and comments in it. The scan keeps what is open on a stack;
the grammar nests. Both give the same texts.

## Main definitions

* `OneFile.Markup.Brace.InQuotes` — what may stand between the quotes of a string.
* `OneFile.Markup.Brace.Balanced`, `OneFile.Markup.Brace.Code`, `OneFile.Markup.Brace.Item`,
  `OneFile.Markup.Brace.InTemplate` — the grammar.

## Main results

* `OneFile.Markup.Brace.Code.scan` — a scan passes over code as it stands in the grammar.
* `OneFile.Markup.Brace.startsWithCode` — what a scan passes over is code.
* `OneFile.Markup.Brace.endFrom?_finds_balanced` — a scan accepts just the balanced texts.

## Design

Two rules of the grammar look at the character after the text that they are about: a slash must
not start a comment, and a line comment must be followed by the end of its line. Code is always
followed by a closing brace, so that character is known within it.
-/

namespace OneFile.Markup.Brace

/-! ### The grammar -/

/-- What may stand between quotes: characters other than the quote and the backslash, and pairs of
a backslash and any character. -/
inductive InQuotes (quote : Char) : Text → Prop
  | nil : InQuotes quote []
  | plain {c : Char} {s : Text} (hquote : c ≠ quote) (hescape : c ≠ '\\') (h : InQuotes quote s) :
      InQuotes quote (c :: s)
  | escape (c : Char) {s : Text} (h : InQuotes quote s) : InQuotes quote ('\\' :: c :: s)

mutual

/-- **A balanced text**: code in braces. -/
inductive Balanced : Text → Prop
  | braces {code : Text} (h : Code code) : Balanced ('{' :: code ++ ['}'])

/-- **Code**, up to a closing brace that follows it: items in a row. -/
inductive Code : Text → Prop
  | nil : Code []
  | cons {piece s : Text} (hpiece : Item (s ++ ['}']).head? piece) (h : Code s) :
      Code (piece ++ s)

/-- **An item of code** that is followed by the character `next`. -/
inductive Item : Option Char → Text → Prop
  | braces {next : Option Char} {piece : Text} (h : Balanced piece) : Item next piece
  | string {next : Option Char} {quote : Char} {body : Text} (hquote : quote = '"' ∨ quote = '\'')
      (h : InQuotes quote body) : Item next (quote :: body ++ [quote])
  | template {next : Option Char} {body : Text} (h : InTemplate body) :
      Item next ('`' :: body ++ ['`'])
  /-- All that is left of a line. -/
  | lineComment {body : Text} (h : '\n' ∉ body) : Item (some '\n') ('/' :: '/' :: body)
  /-- Up to the first mark that ends it. -/
  | blockComment {next : Option Char} {body : Text} (h : ¬ "*/".toList <:+: body) :
      Item next ('/' :: '*' :: body ++ "*/".toList)
  /-- Any other character; a slash only where it does not start a comment. -/
  | plain {next : Option Char} {c : Char} (hc : c ∉ ['"', '\'', '`', '\x7b', '\x7d'])
      (hslash : c = '/' → next ≠ some '/' ∧ next ≠ some '*') : Item next [c]

/-- **What may stand between the marks of a template string**: escapes, code in substitutions, and
characters that neither end it nor start one of those. -/
inductive InTemplate : Text → Prop
  | nil : InTemplate []
  | escape (c : Char) {s : Text} (h : InTemplate s) : InTemplate ('\\' :: c :: s)
  | substitution {code s : Text} (hcode : Code code) (h : InTemplate s) :
      InTemplate ('$' :: '{' :: code ++ '}' :: s)
  | plain {c : Char} {s : Text} (hend : c ≠ '`') (hescape : c ≠ '\\')
      (hdollar : c = '$' → s.head? ≠ some '{') (h : InTemplate s) : InTemplate (c :: s)

end

/-! ### What a scan does in each mode -/

section Scan

variable (stack : List Opening)

/-- A scan of code goes on after a character that is neither a mark nor a slash. -/
lemma scan_plain {c : Char} (hc : c ∉ ['"', '\'', '`', '\x7b', '\x7d']) (hslash : c ≠ '/')
    (s : Text) : afterClosing? ⟨.code, stack⟩ (c :: s) = afterClosing? ⟨.code, stack⟩ s := by
  simp only [List.mem_cons, List.not_mem_nil, or_false, not_or] at hc
  obtain ⟨hdouble, hsingle, hback, hopen, hclose⟩ := hc
  simp [afterClosing?, step, stepCode, hdouble, hsingle, hback, hopen, hclose, hslash]

/-- A slash that does not start a comment is passed over. -/
lemma scan_slash {s : Text} (h : s.head? ≠ some '/' ∧ s.head? ≠ some '*') :
    afterClosing? ⟨.code, stack⟩ ('/' :: s) = afterClosing? ⟨.code, stack⟩ s := by
  show afterClosing? ⟨.slash, stack⟩ s = _
  cases s with
  | nil => rfl
  | cons c s =>
    obtain ⟨hslash, hstar⟩ : c ≠ '/' ∧ c ≠ '*' := by simpa using h
    simp [afterClosing?, step, hslash, hstar]

/-- A quote starts a string. -/
lemma scan_quote {quote : Char} (hquote : quote = '"' ∨ quote = '\'') (s : Text) :
    afterClosing? ⟨.code, stack⟩ (quote :: s) = afterClosing? ⟨.quoted quote, stack⟩ s := by
  simp [afterClosing?, step, stepCode, hquote]

/-- A string goes on after a character that is neither its quote nor a backslash. -/
lemma scan_quoted_plain {quote c : Char} (hquote : c ≠ quote) (hescape : c ≠ '\\') (s : Text) :
    afterClosing? ⟨.quoted quote, stack⟩ (c :: s) = afterClosing? ⟨.quoted quote, stack⟩ s := by
  simp [afterClosing?, step, hquote, hescape]

/-- A string ends at its quote. -/
lemma scan_quoted_end {quote : Char} (hquote : quote = '"' ∨ quote = '\'') (s : Text) :
    afterClosing? ⟨.quoted quote, stack⟩ (quote :: s) = afterClosing? ⟨.code, stack⟩ s := by
  have hescape : quote ≠ '\\' := by rintro rfl; simp at hquote
  simp [afterClosing?, step, hescape]

/-- A line comment goes up to the end of its line. -/
lemma scan_lineComment (s : Text) : afterClosing? ⟨.lineComment, stack⟩ s =
    afterClosing? ⟨.code, stack⟩ (s.dropWhile (· != '\n')) := by
  induction s with
  | nil => rfl
  | cons c s ih =>
    by_cases hc : c = '\n'
    · subst hc
      rfl
    · simp [afterClosing?, step, hc, ih]

/-- A template string goes on after a character that neither ends it nor starts an escape or a
substitution. -/
lemma scan_template_plain {c : Char} {s : Text} (hend : c ≠ '`') (hescape : c ≠ '\\')
    (hdollar : c = '$' → s.head? ≠ some '{') :
    afterClosing? ⟨.literal, stack⟩ (c :: s) = afterClosing? ⟨.literal, stack⟩ s := by
  by_cases hc : c = '$'
  · subst hc
    show afterClosing? ⟨.literalDollar, stack⟩ s = _
    cases s with
    | nil => rfl
    | cons d s =>
      have hd : d ≠ '{' := by simpa using hdollar rfl
      simp [afterClosing?, step, hd]
  · simp [afterClosing?, step, stepLiteral, hend, hescape, hc]

/-- What follows the first occurrence of a pattern is searched for further on, where the pattern
does not start. -/
lemma breakOn_bind_of_ne {pattern s : Text} {c : Char} (f : Text → Option Text)
    (h : ¬ pattern <+: c :: s) :
    (Text.breakOn pattern (c :: s)).bind (fun found => f found.2) =
      (Text.breakOn pattern s).bind fun found => f found.2 := by
  rw [Text.breakOn, if_neg h, Option.bind_map]
  rfl

/-- A block comment goes up to the first mark that ends it.

**Proof sketch.** Induction on the text, for the mode after an asterisk as well: there the mark may
be complete at the next character. -/
lemma scan_blockComment (s : Text) :
    (afterClosing? ⟨.blockComment, stack⟩ s = (Text.breakOn "*/".toList s).bind fun found =>
      afterClosing? ⟨.code, stack⟩ found.2) ∧
    (afterClosing? ⟨.blockStar, stack⟩ s = (Text.breakOn "*/".toList ('*' :: s)).bind fun found =>
      afterClosing? ⟨.code, stack⟩ found.2) := by
  induction s with
  | nil => exact ⟨rfl, rfl⟩
  | cons c s ih =>
    obtain ⟨hcomment, hstar⟩ := ih
    have hblock : afterClosing? ⟨.blockComment, stack⟩ (c :: s) =
        (Text.breakOn "*/".toList (c :: s)).bind fun found =>
          afterClosing? ⟨.code, stack⟩ found.2 := by
      by_cases hc : c = '*'
      · subst hc
        exact hstar
      · have hstart : ¬ "*/".toList <+: c :: s := fun h =>
          hc (List.cons_prefix_cons.1 h).1.symm
        rw [breakOn_bind_of_ne _ hstart, ← hcomment]
        simp [afterClosing?, step, hc]
    refine ⟨hblock, ?_⟩
    by_cases hslash : c = '/'
    · subst hslash
      rfl
    · have hstart : ¬ "*/".toList <+: '*' :: c :: s := fun h =>
        hslash (List.cons_prefix_cons.1 (List.cons_prefix_cons.1 h).2).1.symm
      rw [breakOn_bind_of_ne _ hstart, ← hblock]
      by_cases hc : c = '*'
      · subst hc
        rfl
      · simp [afterClosing?, step, hc, hslash]

end Scan

/-! ### What the grammar derives is passed over -/

/-- A scan passes over what may stand between quotes. -/
lemma InQuotes.scan {quote : Char} {body : Text} (h : InQuotes quote body) (stack : List Opening)
    (hquote : quote = '"' ∨ quote = '\'') (t : Text) :
    afterClosing? ⟨.quoted quote, stack⟩ (body ++ quote :: t) =
      afterClosing? ⟨.code, stack⟩ t := by
  induction h with
  | nil => exact scan_quoted_end stack hquote t
  | plain hc hescape _ ih =>
    rw [List.cons_append, scan_quoted_plain stack hc hescape, ih]
  | escape c _ ih => exact ih

/-- A scan passes over a block comment. -/
lemma scan_blockComment_append (stack : List Opening) {body : Text}
    (h : ¬ "*/".toList <:+: body) (t : Text) :
    afterClosing? ⟨.blockComment, stack⟩ (body ++ ("*/".toList ++ t)) =
      afterClosing? ⟨.code, stack⟩ t := by
  have hfound : Text.breakOn "*/".toList (body ++ ("*/".toList ++ t)) = some (body, t) :=
    Text.breakOn_append t (by decide) h
  rw [(scan_blockComment stack _).1, hfound]
  rfl

/-- A scan passes over a line comment, up to the end of its line. -/
lemma scan_lineComment_append (stack : List Opening) {body : Text} (h : '\n' ∉ body) (t : Text) :
    afterClosing? ⟨.lineComment, stack⟩ (body ++ '\n' :: t) =
      afterClosing? ⟨.code, stack⟩ ('\n' :: t) := by
  have hall : ∀ c ∈ body, (c != '\n') = true := fun c hc => by
    simpa using fun heq : c = '\n' => h (heq ▸ hc)
  rw [scan_lineComment, List.dropWhile_append_of_pos hall]
  rfl

mutual

/-- A scan passes over a balanced text. -/
theorem Balanced.scan {piece : Text} : Balanced piece → ∀ (below : List Opening) (t : Text),
    afterClosing? ⟨.code, .brace :: below⟩ (piece ++ t) =
      afterClosing? ⟨.code, .brace :: below⟩ t
  | .braces h, below, t => by
    have hcode := h.scan (.brace :: below) t
    rw [List.append_assoc]
    exact hcode

/-- **A scan passes over code**, whatever is open around it, up to the closing brace. -/
theorem Code.scan {code : Text} : Code code → ∀ (below : List Opening) (t : Text),
    afterClosing? ⟨.code, .brace :: below⟩ (code ++ '}' :: t) =
      afterClosing? ⟨.code, .brace :: below⟩ ('}' :: t)
  | .nil, below, t => rfl
  | .cons (s := s) hpiece h, below, t => by
    have hnext : (s ++ '}' :: t).head? = (s ++ ['}']).head? := by cases s <;> rfl
    rw [List.append_assoc, hpiece.scan below hnext, h.scan below t]

/-- A scan passes over an item of code. -/
theorem Item.scan {next : Option Char} {piece : Text} : Item next piece →
    ∀ (below : List Opening) {t : Text}, t.head? = next →
      afterClosing? ⟨.code, .brace :: below⟩ (piece ++ t) =
        afterClosing? ⟨.code, .brace :: below⟩ t
  | .braces h, below, t, _ => h.scan below t
  | .string hquote h, below, t, _ => by
    have hbody := h.scan (.brace :: below) hquote t
    rw [← scan_quote _ hquote] at hbody
    simpa using hbody
  | .template h, below, t, _ => by
    have hbody := h.scan below t
    rw [List.append_assoc]
    exact hbody
  | .lineComment h, below, t, ht => by
    obtain ⟨u, rfl⟩ := List.head?_eq_some_iff.1 ht
    exact scan_lineComment_append _ h u
  | .blockComment h, below, t, _ => by
    rw [List.cons_append, List.cons_append, List.append_assoc]
    exact scan_blockComment_append _ h t
  | .plain (c := c) hc hslash, below, t, ht => by
    by_cases heq : c = '/'
    · subst heq
      exact scan_slash _ (ht ▸ hslash rfl)
    · exact scan_plain _ hc heq t

/-- A scan passes over what may stand in a template string. -/
theorem InTemplate.scan {body : Text} : InTemplate body → ∀ (below : List Opening) (t : Text),
    afterClosing? ⟨.literal, .template :: .brace :: below⟩ (body ++ '`' :: t) =
      afterClosing? ⟨.code, .brace :: below⟩ t
  | .nil, below, t => rfl
  | .escape c h, below, t => h.scan below t
  | .substitution hcode h, below, t => by
    have hinner := hcode.scan (.template :: .brace :: below)
    rw [List.append_assoc]
    exact (hinner _).trans (h.scan below t)
  | .plain (s := s) hend hescape hdollar h, below, t => by
    have hnext : (s ++ '`' :: t).head? = some '{' → s.head? = some '{' := by
      cases s <;> simp
    rw [List.cons_append, scan_template_plain _ hend hescape fun hc hs => hdollar hc (hnext hs)]
    exact h.scan below t

end

/-! ### What is passed over is derived -/

/-- What a scan passes over up to the end of a string may stand between its quotes. -/
lemma exists_inQuotes {quote : Char} {stack : List Opening} {after : Text} :
    ∀ {s : Text}, afterClosing? ⟨.quoted quote, stack⟩ s = some after →
      ∃ body t, s = body ++ quote :: t ∧ InQuotes quote body ∧
        afterClosing? ⟨.code, stack⟩ t = some after
  | [], h => by simp [afterClosing?] at h
  | c :: s, h => by
    by_cases hescape : c = '\\'
    · subst hescape
      cases s with
      | nil => simp [afterClosing?, step] at h
      | cons d s =>
        have hrest : afterClosing? ⟨.quoted quote, stack⟩ s = some after := by
          simpa [afterClosing?, step] using h
        obtain ⟨body, t, rfl, hbody, ht⟩ := exists_inQuotes hrest
        exact ⟨'\\' :: d :: body, t, rfl, .escape d hbody, ht⟩
    · by_cases hquote : c = quote
      · subst hquote
        exact ⟨[], s, rfl, .nil, by simpa [afterClosing?, step, hescape] using h⟩
      · rw [scan_quoted_plain _ hquote hescape] at h
        obtain ⟨body, t, rfl, hbody, ht⟩ := exists_inQuotes h
        exact ⟨c :: body, t, rfl, .plain hquote hescape hbody, ht⟩

/-- What a scan passes over up to the end of a block comment is one. -/
lemma exists_blockComment {stack : List Opening} {s after : Text}
    (h : afterClosing? ⟨.blockComment, stack⟩ s = some after) :
    ∃ body t, s = body ++ ("*/".toList ++ t) ∧ ¬ "*/".toList <:+: body ∧
      afterClosing? ⟨.code, stack⟩ t = some after := by
  rw [(scan_blockComment stack s).1] at h
  obtain ⟨⟨body, t⟩, hfound, ht⟩ := Option.bind_eq_some_iff.1 h
  refine ⟨body, t, ?_, Text.not_infix_of_breakOn (by simp) hfound, ht⟩
  rw [Text.breakOn_eq_some hfound, List.append_assoc]

/-- What a scan passes over up to the end of a line is a line comment. -/
lemma exists_lineComment {stack : List Opening} {s after : Text}
    (h : afterClosing? ⟨.lineComment, stack⟩ s = some after) :
    ∃ body t, s = body ++ '\n' :: t ∧ '\n' ∉ body ∧
      afterClosing? ⟨.code, stack⟩ ('\n' :: t) = some after := by
  rw [scan_lineComment] at h
  cases hrest : s.dropWhile (· != '\n') with
  | nil => simp [hrest, afterClosing?] at h
  | cons c t =>
    obtain rfl : c = '\n' := by
      have hhead : c ∈ (s.dropWhile (· != '\n')).head? := by rw [hrest]; rfl
      simpa using Text.eq_false_of_mem_head?_dropWhile hhead
    rw [hrest] at h
    refine ⟨s.takeWhile (· != '\n'), t, ?_, fun hmem => ?_, h⟩
    · rw [← hrest, List.takeWhile_append_dropWhile]
    · simpa using List.all_eq_true.1 List.all_takeWhile _ hmem

/-- **A text starts with code** as far as a scan is concerned: where the scan comes to an end, it
has passed over code up to a closing brace, and goes on from there. -/
def StartsWithCode (s : Text) : Prop :=
  ∀ below after, afterClosing? ⟨.code, .brace :: below⟩ s = some after →
    ∃ code t, s = code ++ '}' :: t ∧ Code code ∧
      afterClosing? ⟨.code, .brace :: below⟩ ('}' :: t) = some after

/-- **A text starts within a template string** as far as a scan is concerned: where the scan comes
to an end, it has passed over the rest of the template string, and goes on after it. -/
def StartsInTemplate (s : Text) : Prop :=
  ∀ below after, afterClosing? ⟨.literal, .template :: .brace :: below⟩ s = some after →
    ∃ body t, s = body ++ '`' :: t ∧ InTemplate body ∧
      afterClosing? ⟨.code, .brace :: below⟩ t = some after

/-- Code goes on after an item of code. -/
lemma StartsWithCode.of_item {piece t after : Text} {below : List Opening} (h : StartsWithCode t)
    (hitem : Item t.head? piece) (ht : afterClosing? ⟨.code, .brace :: below⟩ t = some after) :
    ∃ code u, piece ++ t = code ++ '}' :: u ∧ Code code ∧
      afterClosing? ⟨.code, .brace :: below⟩ ('}' :: u) = some after := by
  obtain ⟨code, u, rfl, hcode, hu⟩ := h below after ht
  have hnext : (code ++ '}' :: u).head? = (code ++ ['}']).head? := by cases code <;> rfl
  rw [hnext] at hitem
  exact ⟨piece ++ code, u, by rw [List.append_assoc], .cons hitem hcode, hu⟩

/-- A text starts with code if all shorter ones do: its first character says which item stands
there. -/
lemma startsWithCode_cons {c : Char} {s : Text}
    (ih : ∀ t : Text, t.length ≤ s.length → StartsWithCode t ∧ StartsInTemplate t) :
    StartsWithCode (c :: s) := by
  intro below after h
  by_cases hclose : c = '}'
  · subst hclose
    exact ⟨[], s, rfl, .nil, h⟩
  by_cases hquote : c = '"' ∨ c = '\''
  · rw [scan_quote _ hquote] at h
    obtain ⟨body, t, rfl, hbody, ht⟩ := exists_inQuotes h
    have hrest := (ih t (by simp; omega)).1
    have hitem : Item t.head? (c :: body ++ [c]) := .string hquote hbody
    simpa using hrest.of_item hitem ht
  by_cases hback : c = '`'
  · subst hback
    obtain ⟨body, t, rfl, hbody, ht⟩ := (ih s le_rfl).2 below after h
    have hrest := (ih t (by simp; omega)).1
    have hitem : Item t.head? ('`' :: body ++ ['`']) := .template hbody
    simpa using hrest.of_item hitem ht
  by_cases hopen : c = '{'
  · subst hopen
    obtain ⟨code, t, rfl, hcode, ht⟩ := (ih s le_rfl).1 (.brace :: below) after h
    have hrest := (ih t (by simp; omega)).1
    have hitem : Item t.head? ('{' :: code ++ ['}']) := .braces (.braces hcode)
    simpa using hrest.of_item hitem ht
  have hplain : c ∉ ['"', '\'', '`', '\x7b', '\x7d'] := by
    simp only [List.mem_cons, List.not_mem_nil, or_false, not_or]
    exact ⟨fun h => hquote (.inl h), fun h => hquote (.inr h), hback, hopen, hclose⟩
  have hrest := (ih s le_rfl).1
  by_cases hslash : c = '/'
  · subst hslash
    by_cases hline : s.head? = some '/'
    · obtain ⟨u, rfl⟩ := List.head?_eq_some_iff.1 hline
      obtain ⟨body, t, rfl, hbody, ht⟩ := exists_lineComment h
      have hrest := (ih ('\n' :: t) (by simp; omega)).1
      have hitem : Item ('\n' :: t).head? ('/' :: '/' :: body) := .lineComment hbody
      simpa using hrest.of_item hitem ht
    by_cases hstar : s.head? = some '*'
    · obtain ⟨u, rfl⟩ := List.head?_eq_some_iff.1 hstar
      obtain ⟨body, t, rfl, hbody, ht⟩ := exists_blockComment h
      have hrest := (ih t (by simp; omega)).1
      have hitem : Item t.head? ('/' :: '*' :: body ++ "*/".toList) := .blockComment hbody
      simpa using hrest.of_item hitem ht
    rw [scan_slash _ ⟨hline, hstar⟩] at h
    have hitem : Item s.head? ['/'] := .plain hplain fun _ => ⟨hline, hstar⟩
    simpa using hrest.of_item hitem h
  · rw [scan_plain _ hplain hslash] at h
    have hitem : Item s.head? [c] := .plain hplain fun heq => absurd heq hslash
    simpa using hrest.of_item hitem h

/-- A text starts within a template string if all shorter ones do. -/
lemma startsInTemplate_cons {c : Char} {s : Text}
    (ih : ∀ t : Text, t.length ≤ s.length → StartsWithCode t ∧ StartsInTemplate t) :
    StartsInTemplate (c :: s) := by
  intro below after h
  by_cases hend : c = '`'
  · subst hend
    exact ⟨[], s, rfl, .nil, h⟩
  by_cases hescape : c = '\\'
  · subst hescape
    cases s with
    | nil => simp [afterClosing?, step, stepLiteral] at h
    | cons d s =>
      obtain ⟨body, t, rfl, hbody, ht⟩ := (ih s (by simp)).2 below after h
      exact ⟨'\\' :: d :: body, t, rfl, .escape d hbody, ht⟩
  by_cases hdollar : c = '$' ∧ s.head? = some '{'
  · obtain ⟨rfl, hbrace⟩ := hdollar
    obtain ⟨u, rfl⟩ := List.head?_eq_some_iff.1 hbrace
    -- the substitution is code with the template string open around it
    obtain ⟨code, t, rfl, hcode, ht⟩ :=
      (ih u (by simp)).1 (.template :: .brace :: below) after h
    obtain ⟨body, v, rfl, hbody, hv⟩ := (ih t (by simp; omega)).2 below after ht
    exact ⟨'$' :: '{' :: code ++ '}' :: body, v, by simp, .substitution hcode hbody, hv⟩
  have hplain : c = '$' → s.head? ≠ some '{' := fun hc hs => hdollar ⟨hc, hs⟩
  rw [scan_template_plain _ hend hescape hplain] at h
  obtain ⟨body, t, rfl, hbody, ht⟩ := (ih s le_rfl).2 below after h
  have hnext : body.head? = some '{' → (body ++ '`' :: t).head? = some '{' := by
    cases body <;> simp
  exact ⟨c :: body, t, rfl, .plain hend hescape (fun hc hb => hplain hc (hnext hb)) hbody, ht⟩

/-- **What a scan passes over is what the grammar derives.**

**Proof sketch.** Induction on the length of the text: what is in the braces of an item, or in its
template string, is shorter than the text, and so is what follows the item. -/
theorem startsWithCode (s : Text) : StartsWithCode s ∧ StartsInTemplate s := by
  induction hn : s.length using Nat.strong_induction_on generalizing s with
  | _ n ih =>
    cases s with
    | nil =>
      constructor
      · intro _ _ h
        simp [afterClosing?] at h
      · intro _ _ h
        simp [afterClosing?] at h
    | cons c s =>
      have hshorter : ∀ t : Text, t.length ≤ s.length → StartsWithCode t ∧ StartsInTemplate t :=
        fun t ht => ih t.length (by rw [← hn, List.length_cons]; omega) t rfl
      exact ⟨startsWithCode_cons hshorter, startsInTemplate_cons hshorter⟩

/-! ### What a scan accepts -/

/-- **A scan that starts at a brace ends after a balanced text**, and it does so wherever one starts
there. -/
theorem afterClosing?_eq_some_iff {s after : Text} :
    afterClosing? .initial ('{' :: s) = some after ↔
      ∃ piece, '{' :: s = piece ++ after ∧ Balanced piece := by
  have hopen : afterClosing? .initial ('{' :: s) = afterClosing? ⟨.code, [.brace]⟩ s := rfl
  rw [hopen]
  constructor
  · intro h
    obtain ⟨code, t, rfl, hcode, ht⟩ := (startsWithCode s).1 [] after h
    obtain rfl : t = after := Option.some.inj ht
    exact ⟨'{' :: code ++ ['}'], by simp, .braces hcode⟩
  · rintro ⟨piece, heq, hpiece⟩
    cases hpiece with
    | @braces code hcode =>
      obtain rfl : s = code ++ '}' :: after := by simpa using heq
      exact hcode.scan [] after

/-- **The end of a balanced text is found.** From an opening brace at any place of a source on, an
end is returned just if the stretch up to it is balanced. There is at most one such end, and none
is returned just if nothing that starts at that place is balanced. -/
theorem endFrom?_finds_balanced (before rest : Text) :
    (∀ stop, endFrom? (before ++ '{' :: rest) before.size = some stop ↔
      ∃ piece, Span.Names (before ++ '{' :: rest) ⟨before.size, stop⟩ piece ∧ Balanced piece) ∧
    (∀ stop stop',
      (∃ piece, Span.Names (before ++ '{' :: rest) ⟨before.size, stop⟩ piece ∧ Balanced piece) →
      (∃ piece, Span.Names (before ++ '{' :: rest) ⟨before.size, stop'⟩ piece ∧ Balanced piece) →
      stop = stop') ∧
    (endFrom? (before ++ '{' :: rest) before.size = none ↔
      ∀ piece, piece <+: '{' :: rest → ¬ Balanced piece) := by
  have hfind : ∀ stop, endFrom? (before ++ '{' :: rest) before.size = some stop ↔
      ∃ piece, Span.Names (before ++ '{' :: rest) ⟨before.size, stop⟩ piece ∧ Balanced piece := by
    intro stop
    rw [endFrom?, Text.dropBytes_size_append, Option.map_eq_some_iff]
    constructor
    · rintro ⟨after, hafter, rfl⟩
      obtain ⟨piece, heq, hpiece⟩ := afterClosing?_eq_some_iff.1 hafter
      refine ⟨piece, Span.names_from_iff.2 ⟨after, heq, ?_⟩, hpiece⟩
      rw [heq, Text.size_append, Text.size_append]
      omega
    · rintro ⟨piece, hnames, hpiece⟩
      obtain ⟨after, heq, rfl⟩ := Span.names_from_iff.1 hnames
      refine ⟨after, afterClosing?_eq_some_iff.2 ⟨piece, heq, hpiece⟩, ?_⟩
      rw [heq, Text.size_append, Text.size_append]
      omega
  refine ⟨hfind, fun stop stop' h h' => ?_, ?_⟩
  · exact Option.some.inj (((hfind stop).2 h).symm.trans ((hfind stop').2 h'))
  · rw [Option.eq_none_iff_forall_ne_some]
    constructor
    · rintro hnone piece ⟨after, heq⟩ hpiece
      exact hnone _ ((hfind _).2 ⟨piece, Span.names_from_iff.2 ⟨after, heq.symm, rfl⟩, hpiece⟩)
    · rintro hnone stop hstop
      obtain ⟨piece, hnames, hpiece⟩ := (hfind stop).1 hstop
      obtain ⟨after, heq, -⟩ := Span.names_from_iff.1 hnames
      exact hnone piece ⟨after, heq.symm⟩ hpiece

/-- A brace in a comment and one in a template string do not count, and what follows is left. -/
example : endFrom? "a\x7b/*\x7d*/ `$\x7b'\x7d'\x7d\x7d` \x7d b\x7d".toList 1 = some 19 := by
  decide

end OneFile.Markup.Brace
