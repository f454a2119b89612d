import OneFile.Proofs.Bytes.Slice
import OneFile.Proofs.Markup.Balance
import OneFile.Proofs.Markup.BraceStack

/-!
# Scanning braces by bytes

The end of a balanced expression, found byte by byte: with a count of open braces, the quote of a
string and a list of open template strings. An escape takes two bytes at once, so the scan does come
to stand within a character; and the rest of the text is cut out where a block comment starts.

## Main definitions

* `OneFile.Bytewise.BraceScan`, `OneFile.Bytewise.BraceScan.move` — what the scan keeps, and what a
  byte does to it.
* `OneFile.Bytewise.scanBraces`, `OneFile.Bytewise.endFrom?` — the scan, and its start.

## Main results

* `OneFile.Bytewise.agrees` — from a character boundary on, the scan goes as the one by characters.
* `OneFile.Bytewise.endFrom?_eq` — the scan from any offset finds what the one by characters finds,
  and every cut that it makes is fine.

## Design

A function here gives `none` where a cut fails. Within a character the scan does nothing: it looks
for ASCII only, and the bytes of other characters are none of that.
-/

namespace OneFile.Bytewise

open Markup Brace Text

/-! ### The scan -/

/-- What the scan keeps: how many braces are open, the quote of the string that it is in, and, for
each open template string, the innermost first, how many braces are open around it. -/
structure BraceScan where
  depth : Nat := 0
  quote : Option Char := none
  templates : List Nat := []
deriving DecidableEq, Repr

/-- What a byte makes of a scan. -/
inductive Move where
  /-- The scan goes on after this byte and `skip` more. -/
  | go (scan : BraceScan) (skip : Nat)
  /-- Here starts a comment that ends at an asterisk and a slash. -/
  | comment
  /-- The outermost brace is closed. -/
  | closed
  /-- A closing brace with nothing open. -/
  | stuck
deriving DecidableEq, Repr

namespace BraceScan

/-- Whether the scan is among literal characters of a template string. -/
def inLiteral (scan : BraceScan) : Prop := scan.templates.head? = some scan.depth

/-- Whether a scan is within a literal. -/
instance : DecidablePred inLiteral := fun scan =>
  inferInstanceAs (Decidable (scan.templates.head? = some scan.depth))

/-- **What the byte `c` makes of a scan**, with the bytes `rest` after it. -/
def move (scan : BraceScan) (c : Char) (rest : List Char) : Move :=
  if c = '\\' ∧ (scan.quote.isSome ∨ scan.inLiteral) then .go scan 1
  else
    match scan.quote with
    | some quote => .go (if c = quote then { scan with quote := none } else scan) 0
    | none =>
      if scan.inLiteral then
        if c = '`' then .go { scan with templates := scan.templates.tail } 0
        else if c = '$' ∧ rest.head? = some '{' then .go { scan with depth := scan.depth + 1 } 1
        else .go scan 0
      else if c = '"' ∨ c = '\'' then .go { scan with quote := some c } 0
      else if c = '`' then .go { scan with templates := scan.depth :: scan.templates } 0
      else if c = '/' ∧ rest.head? = some '/' then .go scan (rest.takeWhile (· != '\n')).length
      else if c = '/' ∧ rest.head? = some '*' then .comment
      else if c = '{' then .go { scan with depth := scan.depth + 1 } 0
      else if c = '}' then
        match scan.depth with
        | 0 => .stuck
        | 1 => .closed
        | depth + 2 => .go { scan with depth := depth + 1 } 0
      else .go scan 0

end BraceScan

/-- **The scan** from the byte at `i` on: the offset after the brace that closes the outermost one,
if there is one. -/
def scanBraces (source : Text) (scan : BraceScan) (i : Nat) : Option (Option Nat) :=
  match _h : source.octets.drop i with
  | [] => some none
  | c :: rest =>
    match scan.move c rest with
    | .go scan skip => scanBraces source scan (i + 1 + skip)
    | .closed => some (some (i + 1))
    | .stuck => some none
    | .comment =>
      match source.slice? (i + 2) source.size with
      | none => none
      | some tail =>
        match breakOn "*/".toList tail with
        | none => some none
        | some (before, _) => scanBraces source scan (i + 2 + before.size + 2)
termination_by source.size - i
decreasing_by
  all_goals
    have hlength := congrArg List.length _h
    rw [List.length_drop, length_octets, List.length_cons] at hlength
    omega

/-- The offset after the brace that balances the first one from `start` on. -/
def endFrom? (source : Text) (start : Nat) : Option (Option Nat) := scanBraces source {} start

/-! ### What the scan keeps of a stack -/

/-- Going on among what is innermost is possible at any time. -/
lemma exists_resume_eq_next (stack : List Opening) :
    ∃ mode, (mode = .code ∨ mode = .literal) ∧ resume stack = .next ⟨mode, stack⟩ := by
  unfold resume
  split
  · exact ⟨.literal, .inr rfl, rfl⟩
  · exact ⟨.code, .inl rfl, rfl⟩

/-- For each template string on a stack, how many braces are below it. -/
def templatesOf : List Opening → List Nat
  | [] => []
  | .brace :: below => templatesOf below
  | .template :: below => below.count .brace :: templatesOf below

/-- What the scan keeps of the state of one by characters. -/
def BraceScan.of (state : Brace.State) : BraceScan where
  depth := state.stack.count .brace
  quote := match state.mode with
    | .quoted quote => some quote
    | _ => none
  templates := templatesOf state.stack

/-- The scan by bytes does not tell code from literal characters but by the stack. -/
lemma of_mode {mode : Mode} (h : mode = .code ∨ mode = .literal) (stack : List Opening) :
    BraceScan.of ⟨mode, stack⟩ = .of ⟨.literal, stack⟩ := by
  rcases h with rfl | rfl <;> rfl

/-- No template string has more braces around it than there are. -/
lemma head?_templatesOf_le {stack : List Opening} {n : Nat}
    (h : (templatesOf stack).head? = some n) : n ≤ stack.count .brace := by
  induction stack with
  | nil => cases h
  | cons o below ih =>
    cases o with
    | brace =>
      rw [List.count_cons_self]
      exact Nat.le_succ_of_le (ih h)
    | template =>
      obtain rfl : below.count .brace = n := by simpa [templatesOf] using h
      exact List.count_le_count_cons

/-- **The scan is among literal characters** just when a template string is what is innermost. -/
lemma inLiteral_of_iff {state : Brace.State} :
    (BraceScan.of state).inLiteral ↔ state.stack.head? = some .template := by
  obtain ⟨mode, stack⟩ := state
  unfold BraceScan.inLiteral
  simp only [BraceScan.of]
  cases stack with
  | nil => simp [templatesOf]
  | cons o below =>
    cases o with
    | template => simp [templatesOf]
    | brace =>
      constructor
      · intro h
        have hle : _ ≤ below.count .brace := head?_templatesOf_le h
        rw [List.count_cons_self] at hle
        omega
      · intro h
        simp at h

section Move

variable {stack : List Opening} {c : Char} {rest : List Char}

/-- A byte in a string. -/
lemma move_quoted (quote : Char) : (BraceScan.of ⟨.quoted quote, stack⟩).move c rest =
    if c = '\\' then .go (.of ⟨.quoted quote, stack⟩) 1
    else .go (.of (if c = quote then ⟨.code, stack⟩ else ⟨.quoted quote, stack⟩)) 0 := by
  unfold BraceScan.move
  split_ifs <;> simp_all [BraceScan.of]

/-- A byte among literal characters. -/
lemma move_literal (htop : stack.head? = some .template) :
    (BraceScan.of ⟨.literal, stack⟩).move c rest =
      if c = '\\' then .go (.of ⟨.literal, stack⟩) 1
      else if c = '`' then .go (.of ⟨.literal, stack.tail⟩) 0
      else if c = '$' ∧ rest.head? = some '{' then .go (.of ⟨.code, .brace :: stack⟩) 1
      else .go (.of ⟨.literal, stack⟩) 0 := by
  have hliteral : (BraceScan.of ⟨.literal, stack⟩).inLiteral := inLiteral_of_iff.2 htop
  obtain ⟨below, rfl⟩ := List.head?_eq_some_iff.1 htop
  unfold BraceScan.move
  simp only [hliteral, or_true, and_true, if_true]
  simp [BraceScan.of, templatesOf]

/-- A byte in code. -/
lemma move_code (c : Char) (rest : List Char) (htop : stack.head? ≠ some .template) :
    (BraceScan.of ⟨.code, stack⟩).move c rest =
      if c = '"' ∨ c = '\'' then .go (.of ⟨.quoted c, stack⟩) 0
      else if c = '`' then .go (.of ⟨.literal, .template :: stack⟩) 0
      else if c = '/' ∧ rest.head? = some '/' then
        .go (.of ⟨.code, stack⟩) (rest.takeWhile (· != '\n')).length
      else if c = '/' ∧ rest.head? = some '*' then .comment
      else if c = '{' then .go (.of ⟨.code, .brace :: stack⟩) 0
      else if c = '}' then
        match stack.count .brace with
        | 0 => .stuck
        | 1 => .closed
        | depth + 2 => .go { BraceScan.of ⟨.code, stack⟩ with depth := depth + 1 } 0
      else .go (.of ⟨.code, stack⟩) 0 := by
  have hliteral : ¬ (BraceScan.of ⟨.code, stack⟩).inLiteral := fun h => htop (inLiteral_of_iff.1 h)
  unfold BraceScan.move
  simp only [hliteral, or_false, if_false]
  simp [BraceScan.of, templatesOf]

/-- A byte outside ASCII makes nothing of a scan. -/
lemma move_of_wide {scan : BraceScan} (hquote : ∀ quote ∈ scan.quote, ¬ IsWide quote)
    (hc : IsWide c) : scan.move c rest = .go scan 0 := by
  have hne : ∀ d : Char, ¬ IsWide d → c ≠ d := fun d hd => hc.ne hd
  unfold BraceScan.move
  rw [if_neg fun h => hne '\\' (by decide) h.1]
  cases hq : scan.quote with
  | some quote => simp [hne quote (hquote quote hq)]
  | none =>
    simp [hne '`' (by decide), hne '$' (by decide), hne '"' (by decide), hne '\'' (by decide),
      hne '/' (by decide), hne '{' (by decide), hne '}' (by decide)]

end Move

/-! ### Moves of the scan -/

section Moves

variable {source : Text} {scan scan' : BraceScan} {i skip : Nat} {c : Char} {rest : List Char}

/-- Past the end there is nothing to find. -/
lemma scanBraces_end (h : source.octets.drop i = []) : scanBraces source scan i = some none := by
  unfold scanBraces
  split
  · rfl
  · rename_i heq
    rw [h] at heq
    cases heq

/-- What a scan finds by what the byte there makes of it. -/
lemma scanBraces_of_drop (h : source.octets.drop i = c :: rest) : scanBraces source scan i =
    match scan.move c rest with
    | .go scan skip => scanBraces source scan (i + 1 + skip)
    | .closed => some (some (i + 1))
    | .stuck => some none
    | .comment =>
      match source.slice? (i + 2) source.size with
      | none => none
      | some tail =>
        match breakOn "*/".toList tail with
        | none => some none
        | some (before, _) => scanBraces source scan (i + 2 + before.size + 2) := by
  rw [scanBraces]
  split
  · rename_i heq
    rw [h] at heq
    cases heq
  · rename_i heq
    rw [h] at heq
    obtain ⟨rfl, rfl⟩ := List.cons.inj heq
    rfl

/-- The scan goes on where a byte sends it. -/
lemma scanBraces_go (h : source.octets.drop i = c :: rest)
    (hmove : scan.move c rest = .go scan' skip) :
    scanBraces source scan i = scanBraces source scan' (i + 1 + skip) := by
  rw [scanBraces_of_drop h, hmove]

/-- **The scan passes over bytes outside ASCII.** -/
lemma scanBraces_skip {u : List Char} (hquote : ∀ quote ∈ scan.quote, ¬ IsWide quote)
    (h : source.octets.drop i = u ++ rest) (hu : ∀ d ∈ u, IsWide d) :
    scanBraces source scan i = scanBraces source scan (i + u.length) := by
  induction u generalizing i with
  | nil => rfl
  | cons d u ih =>
    rw [List.forall_mem_cons] at hu
    have hnext : source.octets.drop (i + 1) = u ++ rest := by
      rw [← List.drop_drop, h, List.cons_append, List.drop_succ_cons, List.drop_zero]
    rw [scanBraces_go h (move_of_wide hquote hu.1), Nat.add_zero, ih hnext hu.2, List.length_cons,
      Nat.add_right_comm, Nat.add_assoc]

/-- A scan that stands after the first byte of a character comes to its end. -/
lemma scanBraces_within {before s : Text} (hquote : ∀ quote ∈ scan.quote, ¬ IsWide quote) :
    scanBraces (before ++ c :: s) scan (before.size + 1) =
      scanBraces (before ++ c :: s) scan (before.size + c.utf8Size) := by
  obtain ⟨d, ds, heq, -, hds⟩ := exists_charOctets_eq_cons c
  have hdrop : (octets (before ++ c :: s)).drop (before.size + 1) = ds ++ octets s := by
    rw [← List.drop_drop, drop_size_octets, octets_cons, heq, List.cons_append,
      List.drop_succ_cons, List.drop_zero]
  have hlength : c.utf8Size = 1 + ds.length := by
    rw [← length_charOctets, heq, List.length_cons, Nat.add_comm]
  rw [scanBraces_skip hquote hdrop fun e he => isWide_of_isContinuation (hds e he), hlength,
    Nat.add_assoc]

end Moves

/-! ### From a character boundary on -/

/-- The states that the scan by bytes knows: in code, in a string and among literal characters. -/
def Rests (state : Brace.State) : Prop :=
  state.mode = .code ∨ state.mode = .literal ∨ state.mode = .quoted '"' ∨ state.mode = .quoted '\''

/-- The scans by bytes and by characters find the same from a text on. -/
def Agrees (s : Text) : Prop :=
  ∀ (before : Text) (state : Brace.State), Rests state → state.Fits →
    scanBraces (before ++ s) (.of state) before.size =
      some ((afterClosing? state s).map fun after => (before ++ s).size - after.size)

/-- The quote of a string is ASCII. -/
lemma Rests.quote_ascii {state : Brace.State} (h : Rests state) :
    ∀ quote ∈ (BraceScan.of state).quote, ¬ IsWide quote := by
  obtain ⟨mode, stack⟩ := state
  intro quote hquote
  rcases h with h | h | h | h <;> simp only at h <;> subst h <;> simp [BraceScan.of] at hquote <;>
    subst hquote <;> decide

section Steps

variable {state state' : Brace.State} {c : Char} {s : Text}

/-- The scans agree from an ASCII character on that both take, with a run of characters after it, to
the same state, if they do so after the run. -/
lemma Agrees.run (run : Text) (h : Agrees s) (hc : ¬ IsWide c)
    (hmove : (BraceScan.of state).move c (octets (run ++ s)) = .go (.of state') run.size)
    (hrests : Rests state') (hfits : state'.Fits)
    (hscan : afterClosing? state (c :: (run ++ s)) = afterClosing? state' s) (before : Text) :
    scanBraces (before ++ c :: (run ++ s)) (.of state) before.size =
      some ((afterClosing? state (c :: (run ++ s))).map fun after =>
        (before ++ c :: (run ++ s)).size - after.size) := by
  have hdrop : (octets (before ++ c :: (run ++ s))).drop before.size = c :: octets (run ++ s) := by
    rw [drop_size_octets, octets_cons_of_ascii hc]
  have hnext := h (before ++ c :: run) state' hrests hfits
  have hsize : (before ++ c :: run).size = before.size + 1 + run.size := by
    rw [size_append, size_cons, utf8Size_of_ascii hc, Nat.add_assoc]
  rw [hsize, List.append_assoc, List.cons_append] at hnext
  rw [scanBraces_go hdrop hmove, hscan]
  exact hnext

/-- The scans agree from an ASCII character on that both take to the same state, if they do so after
it. -/
lemma Agrees.step (h : Agrees s) (hc : ¬ IsWide c)
    (hmove : (BraceScan.of state).move c s.octets = .go (.of state') 0)
    (hrests : Rests state') (hfits : state'.Fits)
    (hscan : afterClosing? state (c :: s) = afterClosing? state' s) (before : Text) :
    scanBraces (before ++ c :: s) (.of state) before.size =
      some ((afterClosing? state (c :: s)).map fun after => (before ++ c :: s).size - after.size) :=
  h.run [] hc hmove hrests hfits hscan before

/-- The scans agree from a character on that neither makes anything of, if they do so after it. -/
lemma Agrees.plain (h : Agrees s)
    (hmove : ¬ IsWide c → (BraceScan.of state).move c s.octets = .go (.of state) 0)
    (hrests : Rests state) (hfits : state.Fits)
    (hscan : afterClosing? state (c :: s) = afterClosing? state s) (before : Text) :
    scanBraces (before ++ c :: s) (.of state) before.size =
      some ((afterClosing? state (c :: s)).map fun after =>
        (before ++ c :: s).size - after.size) := by
  by_cases hc : IsWide c
  · have hdrop : (octets (before ++ c :: s)).drop before.size = charOctets c ++ s.octets := by
      rw [drop_size_octets, octets_cons]
    have hnext := h (before ++ [c]) state hrests hfits
    rw [List.append_assoc, List.singleton_append, size_append, size_cons, size_nil] at hnext
    rw [scanBraces_skip hrests.quote_ascii hdrop fun d hd => isWide_of_mem_charOctets hc hd,
      length_charOctets, hscan]
    exact hnext
  · exact h.step hc (hmove hc) hrests hfits hscan before

/-- **The scans agree from two characters on of which the first takes the second along**, if they do
so after both. The scan by bytes passes over one byte of the second character, and then over those
that continue it. -/
lemma Agrees.pair {d : Char} (h : Agrees s) (hc : ¬ IsWide c)
    (hmove : (BraceScan.of state).move c (octets (d :: s)) = .go (.of state') 1)
    (hrests : Rests state') (hfits : state'.Fits)
    (hscan : afterClosing? state (c :: d :: s) = afterClosing? state' s) (before : Text) :
    scanBraces (before ++ c :: d :: s) (.of state) before.size =
      some ((afterClosing? state (c :: d :: s)).map fun after =>
        (before ++ c :: d :: s).size - after.size) := by
  have hdrop : (octets (before ++ c :: d :: s)).drop before.size = c :: octets (d :: s) := by
    rw [drop_size_octets, octets_cons_of_ascii hc]
  have hnext := h (before ++ [c, d]) state' hrests hfits
  have hwithin : scanBraces (before ++ [c] ++ d :: s) (.of state') ((before ++ [c]).size + 1) =
      scanBraces (before ++ [c] ++ d :: s) (.of state') ((before ++ [c]).size + d.utf8Size) :=
    scanBraces_within hrests.quote_ascii
  have hfirst : (before ++ [c]).size = before.size + 1 := by
    rw [size_append, size_cons, utf8Size_of_ascii hc, size_nil]
  have hboth : (before ++ [c, d]).size = before.size + 1 + d.utf8Size := by
    rw [size_append, size_cons, size_cons, utf8Size_of_ascii hc, size_nil, Nat.add_zero,
      Nat.add_assoc]
  have hsource : before ++ [c] ++ d :: s = before ++ c :: d :: s := by simp
  have hsource' : before ++ [c, d] ++ s = before ++ c :: d :: s := by simp
  rw [hsource, hfirst] at hwithin
  rw [hsource', hboth] at hnext
  rw [scanBraces_go hdrop hmove, hwithin, hscan]
  exact hnext

end Steps

section Modes

variable {s : Text} {stack : List Opening}

/-- Nothing is found at the end of a text. -/
lemma agrees_nil : Agrees [] := by
  intro before state _ _
  refine scanBraces_end ?_
  rw [drop_size_octets, octets_nil]

/-- The scans agree from a backslash on that escapes what follows it, be it nothing. -/
lemma agrees_escape {state : Brace.State} (ih : ∀ t : Text, t.length < s.length + 1 → Agrees t)
    (hmove : ∀ rest, (BraceScan.of state).move '\\' rest = .go (.of state) 1)
    (hrests : Rests state) (hfits : state.Fits) (hend : afterClosing? state ['\\'] = none)
    (hscan : ∀ d t, afterClosing? state ('\\' :: d :: t) = afterClosing? state t)
    (before : Text) : scanBraces (before ++ '\\' :: s) (.of state) before.size =
      some ((afterClosing? state ('\\' :: s)).map fun after =>
        (before ++ '\\' :: s).size - after.size) := by
  cases s with
  | nil =>
    have hdrop : (octets (before ++ ['\\'])).drop before.size = '\\' :: octets [] := by
      rw [drop_size_octets, octets_cons_of_ascii (by decide)]
    rw [scanBraces_go hdrop (hmove _), hend]
    refine scanBraces_end ?_
    rw [Nat.add_assoc, ← List.drop_drop, hdrop]
    rfl
  | cons d s =>
    exact (ih s (by rw [List.length_cons]; omega)).pair (by decide) (hmove _) hrests hfits
      (hscan d s) before

/-- **In a string** the scans agree from a text on if they do so from every shorter one. -/
lemma agrees_quoted {quote : Char} (ih : ∀ t : Text, t.length < s.length → Agrees t)
    (hquote : quote = '"' ∨ quote = '\'') (hfits : Brace.State.Fits ⟨.quoted quote, stack⟩)
    (before : Text) : scanBraces (before ++ s) (.of ⟨.quoted quote, stack⟩) before.size =
      some ((afterClosing? ⟨.quoted quote, stack⟩ s).map fun after =>
        (before ++ s).size - after.size) := by
  have hrests : Rests ⟨.quoted quote, stack⟩ := by
    rcases hquote with rfl | rfl
    · exact .inr (.inr (.inl rfl))
    · exact .inr (.inr (.inr rfl))
  have hascii : ¬ IsWide quote := hrests.quote_ascii quote rfl
  cases s with
  | nil => exact agrees_nil before _ hrests hfits
  | cons c s =>
    have hrest : Agrees s := ih s (by simp)
    by_cases hescape : c = '\\'
    · subst hescape
      exact agrees_escape ih (fun rest => by rw [move_quoted, if_pos rfl]) hrests hfits rfl
        (fun d t => rfl) before
    · by_cases hend : c = quote
      · subst hend
        have hmove : (BraceScan.of ⟨.quoted c, stack⟩).move c (octets s) =
            .go (.of ⟨.code, stack⟩) 0 := by
          rw [move_quoted, if_neg hescape, if_pos rfl]
        exact hrest.step hascii hmove (.inl rfl) hfits (scan_quoted_end stack hquote s) before
      · have hmove : (BraceScan.of ⟨.quoted quote, stack⟩).move c (octets s) =
            .go (.of ⟨.quoted quote, stack⟩) 0 := by
          rw [move_quoted, if_neg hescape, if_neg hend]
        exact hrest.plain (fun _ => hmove) hrests hfits (scan_quoted_plain stack hend hescape s)
          before

/-- **Among literal characters** the scans agree from a text on if they do so from every shorter
one. -/
lemma agrees_literal (ih : ∀ t : Text, t.length < s.length → Agrees t)
    (hfits : Brace.State.Fits ⟨.literal, stack⟩) (before : Text) :
    scanBraces (before ++ s) (.of ⟨.literal, stack⟩) before.size =
      some ((afterClosing? ⟨.literal, stack⟩ s).map fun after =>
        (before ++ s).size - after.size) := by
  have hrests : Rests ⟨.literal, stack⟩ := .inr (.inl rfl)
  have htop : stack.head? = some .template := hfits.1 rfl
  cases s with
  | nil => exact agrees_nil before _ hrests hfits
  | cons c s =>
    have hrest : Agrees s := ih s (by simp)
    by_cases hescape : c = '\\'
    · subst hescape
      exact agrees_escape ih (fun rest => by rw [move_literal htop, if_pos rfl]) hrests hfits rfl
        (fun d t => rfl) before
    by_cases hend : c = '`'
    · subst hend
      obtain ⟨below, rfl⟩ := List.head?_eq_some_iff.1 htop
      obtain ⟨mode, hmode, hresume⟩ := exists_resume_eq_next below
      have hmove : (BraceScan.of ⟨.literal, .template :: below⟩).move '`' (octets s) =
          .go (.of ⟨mode, below⟩) 0 := by
        rw [move_literal htop, if_neg hescape, if_pos rfl, of_mode hmode]
        rfl
      have hscan : afterClosing? ⟨.literal, .template :: below⟩ ('`' :: s) =
          afterClosing? ⟨mode, below⟩ s := by
        simp [afterClosing?, Brace.step, stepLiteral, hresume]
      exact hrest.step (by decide) hmove (hmode.imp_right .inl) (resume_eq_next hresume).1 hscan
        before
    by_cases hdollar : c = '$' ∧ (octets s).head? = some '{'
    · obtain ⟨rfl, hopen⟩ := hdollar
      obtain ⟨t, rfl⟩ := (head?_octets_iff_exists (by decide)).1 hopen
      have hmove : (BraceScan.of ⟨.literal, stack⟩).move '$' (octets ('{' :: t)) =
          .go (.of ⟨.code, .brace :: stack⟩) 1 := by
        rw [move_literal htop, if_neg hescape, if_neg hend, if_pos ⟨rfl, hopen⟩]
      exact (ih t (by rw [List.length_cons, List.length_cons]; omega)).pair (by decide) hmove
        (.inl rfl) (fits_openBrace stack) rfl before
    · have hmove : (BraceScan.of ⟨.literal, stack⟩).move c (octets s) =
          .go (.of ⟨.literal, stack⟩) 0 := by
        rw [move_literal htop, if_neg hescape, if_neg hend, if_neg hdollar]
      have hnext : c = '$' → s.head? ≠ some '{' := fun hc h =>
        hdollar ⟨hc, (head?_octets_eq_some_iff (by decide)).2 h⟩
      exact hrest.plain (fun _ => hmove) hrests hfits (scan_template_plain stack hend hescape hnext)
        before

/-- A comment between marks is cut out of the text, and passed over by both scans. -/
lemma agrees_comment (ih : ∀ t : Text, t.length < s.length + 2 → Agrees t)
    (hfits : Brace.State.Fits ⟨.code, stack⟩) (before : Text) :
    scanBraces (before ++ '/' :: '*' :: s) (.of ⟨.code, stack⟩) before.size =
      some ((afterClosing? ⟨.code, stack⟩ ('/' :: '*' :: s)).map fun after =>
        (before ++ '/' :: '*' :: s).size - after.size) := by
  have htop : stack.head? ≠ some .template := fun h => by simpa [Mode.isLiteral] using hfits.2 h
  have hdrop : (octets (before ++ '/' :: '*' :: s)).drop before.size =
      '/' :: octets ('*' :: s) := by
    rw [drop_size_octets, octets_cons_of_ascii (by decide)]
  have hmove : (BraceScan.of ⟨.code, stack⟩).move '/' (octets ('*' :: s)) = .comment := by
    rw [move_code _ _ htop, octets_cons_of_ascii (by decide)]
    simp
  have hopening : (before ++ ['/', '*']).size = before.size + 2 := by
    rw [size_append]
    rfl
  have hslice : (before ++ '/' :: '*' :: s).slice? (before.size + 2)
      (before ++ '/' :: '*' :: s).size = some s := by
    have h := slice?_append_right (before ++ ['/', '*']) s
    rwa [hopening, List.append_assoc] at h
  have hscan : afterClosing? ⟨.code, stack⟩ ('/' :: '*' :: s) =
      (breakOn "*/".toList s).bind fun found => afterClosing? ⟨.code, stack⟩ found.2 :=
    (scan_blockComment stack s).1
  rw [scanBraces_of_drop hdrop, hmove, hscan]
  dsimp only
  rw [hslice]
  dsimp only
  cases hfound : breakOn "*/".toList s with
  | none => rfl
  | some found =>
    obtain ⟨body, after⟩ := found
    have hs := breakOn_eq_some hfound
    have hlength : after.length < s.length + 2 := by
      rw [hs, List.length_append]
      omega
    have hnext := ih after hlength (before ++ '/' :: '*' :: (body ++ "*/".toList)) ⟨.code, stack⟩
      (.inl rfl) hfits
    have hsource : before ++ '/' :: '*' :: (body ++ "*/".toList) ++ after =
        before ++ '/' :: '*' :: s := by
      rw [hs]
      simp
    have hsize : (before ++ '/' :: '*' :: (body ++ "*/".toList)).size =
        before.size + 2 + body.size + 2 := by
      have hbody : size ('/' :: '*' :: (body ++ "*/".toList)) = 1 + (1 + (body.size + 2)) := by
        rw [size_cons, size_cons, size_append]
        rfl
      rw [size_append, hbody]
      omega
    rw [hsource, hsize] at hnext
    exact hnext

/-- A comment up to the end of its line is passed over by both scans. -/
lemma agrees_lineComment (ih : ∀ t : Text, t.length < s.length + 2 → Agrees t)
    (hfits : Brace.State.Fits ⟨.code, stack⟩) (before : Text) :
    scanBraces (before ++ '/' :: '/' :: s) (.of ⟨.code, stack⟩) before.size =
      some ((afterClosing? ⟨.code, stack⟩ ('/' :: '/' :: s)).map fun after =>
        (before ++ '/' :: '/' :: s).size - after.size) := by
  have htop : stack.head? ≠ some .template := fun h => by simpa [Mode.isLiteral] using hfits.2 h
  let run : Text := '/' :: s.takeWhile (· != '\n')
  let rest : Text := s.dropWhile (· != '\n')
  have hsplit : '/' :: s = run ++ rest := by
    show _ = '/' :: (_ ++ _)
    rw [List.takeWhile_append_dropWhile]
  have hrun : ((octets ('/' :: s)).takeWhile (· != '\n')).length = run.size :=
    length_takeWhile_octets (fun c d hc hd => by
      have hline : ¬ IsWide '\n' := by decide
      rw [bne_iff_ne.2 (hc.ne hline), bne_iff_ne.2 (hd.ne hline)]) ('/' :: s)
  have hmove : (BraceScan.of ⟨.code, stack⟩).move '/' (octets (run ++ rest)) =
      .go (.of ⟨.code, stack⟩) run.size := by
    rw [← hsplit, ← hrun, move_code _ _ htop, octets_cons_of_ascii (by decide)]
    simp
  have hlength : rest.length < s.length + 2 :=
    Nat.lt_of_le_of_lt (List.dropWhile_sublist _).length_le (by omega)
  have hscan : afterClosing? ⟨.code, stack⟩ ('/' :: (run ++ rest)) =
      afterClosing? ⟨.code, stack⟩ rest := by
    rw [← hsplit]
    exact scan_lineComment stack s
  rw [hsplit]
  exact (ih rest hlength).run run (by decide) hmove (.inl rfl) hfits hscan before

/-- A closing brace ends both scans, or leads both to what is left open. -/
lemma agrees_close (hrest : Agrees s) (hfits : Brace.State.Fits ⟨.code, stack⟩) (before : Text) :
    scanBraces (before ++ '}' :: s) (.of ⟨.code, stack⟩) before.size =
      some ((afterClosing? ⟨.code, stack⟩ ('}' :: s)).map fun after =>
        (before ++ '}' :: s).size - after.size) := by
  have htop : stack.head? ≠ some .template := fun h => by simpa [Mode.isLiteral] using hfits.2 h
  have hdrop : (octets (before ++ '}' :: s)).drop before.size = '}' :: octets s := by
    rw [drop_size_octets, octets_cons_of_ascii (by decide)]
  have hmove := move_code '}' (octets s) htop
  simp only [Char.reduceEq, or_self, if_false, false_and, if_true] at hmove
  cases stack with
  | nil =>
    rw [scanBraces_of_drop hdrop, hmove]
    rfl
  | cons o below =>
    obtain rfl : o = .brace := by cases o <;> simp_all
    rw [List.count_cons_self] at hmove
    cases hcount : below.count Opening.brace with
    | zero =>
      have hnone : .brace ∉ below := List.count_eq_zero.1 hcount
      have hstep : Brace.step ⟨.code, .brace :: below⟩ '}' = .closed := by
        simp [Brace.step, stepCode, closeBrace, hnone]
      have hscan : afterClosing? ⟨.code, .brace :: below⟩ ('}' :: s) = some s := by
        rw [afterClosing?, hstep]
      rw [hcount] at hmove
      rw [scanBraces_of_drop hdrop, hmove, hscan, Option.map_some, size_append, size_cons]
      dsimp only
      have hbyte : '}'.utf8Size = 1 := rfl
      rw [hbyte]
      congr 2
      omega
    | succ depth =>
      obtain ⟨mode, hmode, hresume⟩ := exists_resume_eq_next below
      have hsome : .brace ∈ below := List.count_pos_iff.1 (by omega)
      have hstep : Brace.step ⟨.code, .brace :: below⟩ '}' = .next ⟨mode, below⟩ := by
        simp [Brace.step, stepCode, closeBrace, hsome, hresume]
      have hscan : afterClosing? ⟨.code, .brace :: below⟩ ('}' :: s) =
          afterClosing? ⟨mode, below⟩ s := by
        rw [afterClosing?, hstep]
      have hsame : { BraceScan.of ⟨.code, .brace :: below⟩ with depth := depth + 1 } =
          BraceScan.of ⟨mode, below⟩ := by
        rw [of_mode hmode, ← hcount]
        rfl
      rw [hcount] at hmove
      dsimp only at hmove
      rw [hsame] at hmove
      exact hrest.step (by decide) hmove (hmode.imp_right .inl) (resume_eq_next hresume).1 hscan
        before

/-- **In code** the scans agree from a text on if they do so from every shorter one. -/
lemma agrees_code (ih : ∀ t : Text, t.length < s.length → Agrees t)
    (hfits : Brace.State.Fits ⟨.code, stack⟩) (before : Text) :
    scanBraces (before ++ s) (.of ⟨.code, stack⟩) before.size =
      some ((afterClosing? ⟨.code, stack⟩ s).map fun after =>
        (before ++ s).size - after.size) := by
  have hrests : Rests ⟨.code, stack⟩ := .inl rfl
  have htop : stack.head? ≠ some .template := fun h => by simpa [Mode.isLiteral] using hfits.2 h
  cases s with
  | nil => exact agrees_nil before _ hrests hfits
  | cons c s =>
    have hrest : Agrees s := ih s (by simp)
    have hmove := move_code c (octets s) htop
    by_cases hquote : c = '"' ∨ c = '\''
    · rw [if_pos hquote] at hmove
      have hascii : ¬ IsWide c := by rcases hquote with rfl | rfl <;> decide
      have hstate : Rests ⟨.quoted c, stack⟩ := by
        rcases hquote with rfl | rfl
        · exact .inr (.inr (.inl rfl))
        · exact .inr (.inr (.inr rfl))
      exact hrest.step hascii hmove hstate hfits (scan_quote stack hquote s) before
    rw [if_neg hquote] at hmove
    by_cases htick : c = '`'
    · subst htick
      exact hrest.step (by decide) hmove (.inr (.inl rfl)) (fits_openTemplate stack) rfl before
    rw [if_neg htick] at hmove
    by_cases hline : c = '/' ∧ (octets s).head? = some '/'
    · obtain ⟨rfl, hnext⟩ := hline
      obtain ⟨t, rfl⟩ := (head?_octets_iff_exists (by decide)).1 hnext
      exact agrees_lineComment (fun u hu => ih u hu) hfits before
    rw [if_neg hline] at hmove
    by_cases hblock : c = '/' ∧ (octets s).head? = some '*'
    · obtain ⟨rfl, hnext⟩ := hblock
      obtain ⟨t, rfl⟩ := (head?_octets_iff_exists (by decide)).1 hnext
      exact agrees_comment (fun u hu => ih u hu) hfits before
    rw [if_neg hblock] at hmove
    by_cases hopen : c = '{'
    · subst hopen
      exact hrest.step (by decide) hmove (.inl rfl) (fits_openBrace stack) rfl before
    by_cases hclose : c = '}'
    · subst hclose
      exact agrees_close hrest hfits before
    rw [if_neg hopen, if_neg hclose] at hmove
    have hscan : afterClosing? ⟨.code, stack⟩ (c :: s) = afterClosing? ⟨.code, stack⟩ s := by
      by_cases hslash : c = '/'
      · subst hslash
        refine scan_slash stack ⟨fun h => hline ⟨rfl, ?_⟩, fun h => hblock ⟨rfl, ?_⟩⟩
        · exact (head?_octets_eq_some_iff (by decide)).2 h
        · exact (head?_octets_eq_some_iff (by decide)).2 h
      · exact scan_plain stack (by simp_all) hslash s
    exact hrest.plain (fun _ => hmove) hrests hfits hscan before

end Modes

/-- **From a character boundary on the scan goes as the one by characters**, whatever is open: it
finds the same, and every cut that it makes on its way is fine.

**Proof sketch.** Strong induction on the text that follows, for each of the three kinds of
characters that the scan can be among. -/
theorem agrees (s : Text) : Agrees s := by
  induction hn : s.length using Nat.strong_induction_on generalizing s with
  | _ n ih =>
    have hshorter : ∀ t : Text, t.length < s.length → Agrees t := fun t ht => ih _ (hn ▸ ht) t rfl
    rintro before ⟨mode, stack⟩ hrests hfits
    rcases hrests with h | h | h | h <;> obtain rfl : mode = _ := h
    · exact agrees_code hshorter hfits before
    · exact agrees_literal hshorter hfits before
    · exact agrees_quoted hshorter (.inl rfl) hfits before
    · exact agrees_quoted hshorter (.inr rfl) hfits before

/-! ### From any offset on -/

/-- From any offset on, bytes that continue a character come before those of what follows it. -/
lemma exists_drop_octets (n : Nat) (s : Text) : ∃ u : List Char, (∀ d ∈ u, IsWide d) ∧
    s.octets.drop n = u ++ octets (dropBytes n s) := by
  induction s generalizing n with
  | nil => exact ⟨[], by simp, by cases n <;> rfl⟩
  | cons c s ih =>
    cases n with
    | zero => exact ⟨[], by simp, rfl⟩
    | succ n =>
      rcases Nat.lt_or_ge (n + 1) c.utf8Size with hlt | hge
      · obtain ⟨d, ds, heq, -, hds⟩ := exists_charOctets_eq_cons c
        have hlength : n ≤ ds.length := by
          have hsize := length_charOctets c
          rw [heq, List.length_cons] at hsize
          omega
        refine ⟨ds.drop n, fun e he => ?_, ?_⟩
        · exact isWide_of_isContinuation (hds e (List.mem_of_mem_drop he))
        · rw [dropBytes, Nat.sub_eq_zero_of_le hlt.le, dropBytes, octets_cons, heq,
            List.cons_append, List.drop_succ_cons, List.drop_append_of_le_length hlength]
      · obtain ⟨u, hu, hdrop⟩ := ih (n + 1 - c.utf8Size)
        refine ⟨u, hu, ?_⟩
        rw [dropBytes, ← hdrop, octets_cons, List.drop_append, length_charOctets,
          List.drop_eq_nil_of_le (by rw [length_charOctets]; exact hge), List.nil_append]

/-- **The scan from any offset finds what the one by characters finds**, and every cut that it makes
is fine: from a brace on, from within a character, and from an offset beyond the end. -/
theorem endFrom?_eq (source : Text) (start : Nat) :
    endFrom? source start = some (Brace.endFrom? source start) := by
  obtain ⟨u, hu, hdrop⟩ := exists_drop_octets start source
  have hsplit := takeBytes_append_dropBytes start source
  have hskip : endFrom? source start = scanBraces source {} (start + u.length) :=
    scanBraces_skip (fun _ h => by cases h) hdrop hu
  have hlength := congrArg List.length hdrop
  rw [List.length_drop, length_octets, List.length_append, length_octets] at hlength
  have hsizes := congrArg size hsplit
  rw [size_append] at hsizes
  rcases Nat.lt_or_ge source.size start with hbeyond | hwithin
  · have hrest : dropBytes start source = [] := size_eq_zero.1 (by omega)
    rw [Brace.endFrom?, hrest]
    exact scanBraces_end (List.drop_eq_nil_of_le (by rw [length_octets]; omega))
  · have hplace : start + u.length = size (takeBytes start source) := by omega
    have hagrees := agrees (dropBytes start source) (takeBytes start source) .initial (.inl rfl)
      fits_initial
    rw [hsplit] at hagrees
    rw [hskip, hplace]
    exact hagrees

end OneFile.Bytewise
