import OneFile.Proofs.Script.Coverage

/-!
# Statements on lines of their own

Texts that are written one to a line are a script again. It is made up of the same texts as its
statements if each of them is read as one statement where it stands, and not otherwise: a text
alone does not tell how far the statement goes that starts with it.

## Main definitions

* `OneFile.onLines` — texts with a line end after each of them.
* `OneFile.spansOnLines` — where these texts stand.
* `OneFile.Script.ReadInTurn` — texts each of which is read as one statement where it stands.
* `OneFile.Script.ReadOnLines` — the same for texts on lines, from the start of their script on.

## Main results

* `OneFile.Script.statements?_of_blank` — a blank script has no statements.
* `OneFile.Script.statements?_onLines_iff` — when texts on lines are the statements of a script.

## Design

Reading goes round by round, one statement in each. `ReadInTurn` has one step for each text and
says what is read in its round; that there are rounds enough, and that no round is spent on a
directive, is left to be proved. So `ReadOnLines` is no condition on texts alone: whether it holds
is found out by reading, and only the grammar says for which texts it does.
-/

namespace OneFile

/-! ### Texts on lines -/

/-- Texts with a line end after each of them. -/
def onLines (texts : List Text) : Text := texts.flatMap (· ++ ['\n'])

/-- Where texts with line ends after them stand, if the first one starts at byte `start`. -/
def spansOnLines (start : Nat) : List Text → List Span
  | [] => []
  | t :: texts => ⟨start, start + t.size⟩ :: spansOnLines (start + t.size + 1) texts

/-- No texts need no lines. -/
@[simp] lemma onLines_nil : onLines [] = [] := rfl

/-- Texts on lines are written one after another. -/
@[simp] lemma onLines_cons (t : Text) (texts : List Text) :
    onLines (t :: texts) = t ++ '\n' :: onLines texts := by simp [onLines]

/-- A line has at least one character. -/
lemma length_le_length_onLines (texts : List Text) : texts.length ≤ (onLines texts).length := by
  induction texts with
  | nil => exact le_rfl
  | cons t texts ih =>
    rw [onLines_cons, List.length_append, List.length_cons, List.length_cons]
    omega

/-- Where texts stand moves with them. -/
lemma spansOnLines_add (n start : Nat) (texts : List Text) :
    spansOnLines (n + start) texts = (spansOnLines start texts).map (Span.shift n) := by
  induction texts generalizing start with
  | nil => rfl
  | cons t texts ih =>
    have hnext : n + start + t.size + 1 = n + (start + t.size + 1) := by omega
    rw [spansOnLines, spansOnLines, hnext, ih, List.map_cons, Span.shift, Nat.add_assoc]

/-- What stands where texts on lines do is these texts. -/
lemma slice_spansOnLines {source before after : Text} (texts : List Text)
    (hsource : source = before ++ onLines texts ++ after) :
    (spansOnLines before.size texts).map (·.slice source) = texts := by
  induction texts generalizing before with
  | nil => rfl
  | cons t texts ih =>
    have hrest : source = before ++ t ++ ['\n'] ++ onLines texts ++ after := by simp [hsource]
    have hnames : Span.Names source ⟨before.size, before.size + t.size⟩ t :=
      Span.names_iff.2 ⟨before, '\n' :: onLines texts ++ after, by simp [hsource], rfl⟩
    have hnext : (before ++ t ++ ['\n']).size = before.size + t.size + 1 := by
      rw [Text.size_append, Text.size_append]
      rfl
    rw [spansOnLines, List.map_cons, hnames.slice_eq, ← hnext, ih hrest]

namespace Script

/-! ### Rounds of reading -/

namespace Rule

section Sequences

variable {α β : Type} {eng : Engine} {set : Setting} {st : State} {r : Rule α} {f : α → Rule β}
  {a : α} {b : β}

/-- Going on after a rule that only looks. -/
lemma bind_of_here (h : r eng set st = some (a, .here st)) :
    (r >>= f) eng set st = f a eng set st := by
  dsimp only [Bind.bind]
  rw [h]
  dsimp only [State.Onward.here]
  cases f a eng set st <;> rfl

/-- A rule that only looks, after another one. -/
lemma bind_eq_some {st' : st.Onward} (h : r eng set st = some (a, st'))
    (hf : f a eng set st'.1 = some (b, .here st'.1)) : (r >>= f) eng set st = some (b, st') := by
  dsimp only [Bind.bind]
  rw [h]
  dsimp only
  rw [hf]
  rfl

/-- Nothing comes after a rule that fails. -/
lemma bind_eq_none (h : r eng set st = none) : (r >>= f) eng set st = none := by
  dsimp only [Bind.bind]
  rw [h]

end Sequences

/-- Whether a statement of this shape at the place is a directive, which is no statement. None is
once a statement has been read. -/
def directs (begun : Bool) (st : State) (shape : Shape) : Bool :=
  !begun && st.current.token == .string && (shape matches .string)

/-- The statement of this shape that is read between two places. -/
def statementOf (st : State) (shape : Shape) (st' : State) : Statement :=
  ⟨shape matches .importDeclaration, ⟨st.current.span.start, st'.lastStop⟩⟩

/-- One round of reading a script: it ends, or a directive or a statement is read. -/
def readRound (read : List Statement) : Rule (List Statement ⊕ List Statement) := do
  if (← token) == .endOfInput then return .inr read.reverse
  let mayDirect := read.isEmpty && (← token) == .string
  let (shape, statement) ← topStatement
  if mayDirect && (shape matches .string) then return .inl read
  return .inl (statement :: read)

variable {eng : Engine} {set : Setting} {st : State} {read : List Statement} {shape : Shape}
  {st' : st.Onward}

/-- A script is read in rounds. -/
lemma topStatements_eq (eng : Engine) (set : Setting) (st : State) :
    topStatements eng set st = repeatFrom readRound eng set set.limit [] (.here st) := by
  have hset : setting eng set st = some (set, .here st) := rfl
  have hloop : topStatements = loop readRound [] := rfl
  rw [hloop, loop, bind_of_here hset]
  rfl

/-- Reading ends at the end of the script. -/
lemma readRound_of_end (hend : st.current.token = .endOfInput) :
    readRound read eng set st = some (.inr read.reverse, .here st) := by
  have htoken : token eng set st = some (.endOfInput, .here st) := by rw [← hend]; rfl
  rw [readRound, bind_of_here htoken]
  rfl

/-- A statement is read as long as there is a token. -/
lemma readRound_of_read (hmore : st.current.token ≠ .endOfInput)
    (hread : eng (.statement false) set st = some (shape, st')) :
    readRound read eng set st = some (.inl (if directs (!read.isEmpty) st shape then read
      else statementOf st shape st'.1 :: read), st') := by
  have htoken : token eng set st = some (st.current.token, .here st) := rfl
  have hstart : start eng set st = some (st.current.span.start, .here st) := rfl
  have hhere : here eng set st'.1 = some (st'.1, .here st'.1) := rfl
  have htop : topStatement eng set st = some ((shape, statementOf st shape st'.1), st') := by
    rw [topStatement, bind_of_here hstart]
    refine bind_eq_some hread ?_
    rw [bind_of_here hhere]
    rfl
  have hdirects : ∀ shape, directs (!read.isEmpty) st shape =
      (read.isEmpty && st.current.token == .string && (shape matches .string)) := by
    simp [directs]
  rw [readRound, bind_of_here htoken, if_neg (by simpa using hmore), bind_of_here htoken]
  refine bind_eq_some htop ?_
  simp only [← hdirects]
  split_ifs <;> rfl

/-- Reading fails if no statement can be read. -/
lemma readRound_of_none (hmore : st.current.token ≠ .endOfInput)
    (hread : eng (.statement false) set st = none) : readRound read eng set st = none := by
  have htoken : token eng set st = some (st.current.token, .here st) := rfl
  have hstart : start eng set st = some (st.current.span.start, .here st) := rfl
  rw [readRound, bind_of_here htoken, if_neg (by simpa using hmore), bind_of_here htoken]
  refine bind_eq_none ?_
  rw [topStatement, bind_of_here hstart]
  exact bind_eq_none hread

section Rounds

variable {n : Nat} {st₀ : State} {st₁ : st₀.Onward}

/-- At the end of the input there is no further round. -/
lemma repeatFrom_of_end (hend : st₁.1.current.token = .endOfInput) :
    repeatFrom readRound eng set (n + 1) read st₁ = some (read.reverse, st₁) := by
  rw [repeatFrom, readRound_of_end hend]
  rfl

/-- A round that reads a statement goes on after it. -/
lemma repeatFrom_of_read {st' : st₁.1.Onward} (hmore : st₁.1.current.token ≠ .endOfInput)
    (hread : eng (.statement false) set st₁.1 = some (shape, st')) :
    repeatFrom readRound eng set (n + 1) read st₁ = repeatFrom readRound eng set n
      (if directs (!read.isEmpty) st₁.1 shape then read else statementOf st₁.1 shape st'.1 :: read)
      (st₁.andThen st') := by
  rw [repeatFrom, readRound_of_read hmore hread]

/-- A round that reads none makes the whole reading fail. -/
lemma repeatFrom_of_none (hmore : st₁.1.current.token ≠ .endOfInput)
    (hread : eng (.statement false) set st₁.1 = none) :
    repeatFrom readRound eng set (n + 1) read st₁ = none := by
  rw [repeatFrom, readRound_of_none hmore hread]

end Rounds

end Rule

open Rule

/-! ### Texts that are read in turn -/

/-- **Texts are read in turn**, from a place on at which the first one should start at byte
`start`: each of them is what is read as one statement where it stands, none is a directive, and
nothing is left after the last one or found wrong before. `begun` tells whether there has been a
statement before them. -/
inductive ReadInTurn (eng : Engine) (set : Setting) : Bool → Nat → List Text → State → Prop
  | nil {begun : Bool} {start : Nat} {st : State} (hend : st.current.token = .endOfInput)
      (hflawed : st.flawed = false) (hdefaults : st.defaults = []) :
      ReadInTurn eng set begun start [] st
  | cons {begun : Bool} {start : Nat} {t : Text} {texts : List Text} {st : State} {shape : Shape}
      {st' : st.Onward} (hmore : st.current.token ≠ .endOfInput)
      (hstart : st.current.span.start = start)
      (hread : eng (.statement false) set st = some (shape, st'))
      (hkept : directs begun st shape = false) (hstop : st'.1.lastStop = start + t.size)
      (hrest : ReadInTurn eng set true (start + t.size + 1) texts st'.1) :
      ReadInTurn eng set begun start (t :: texts) st

variable {eng : Engine} {set : Setting} {st₀ st : State} {begun : Bool} {start : Nat}
  {texts : List Text}

/-- **Texts that are read in turn are the statements** that are read, if there are rounds enough:
one for each text, and one to find the end. -/
lemma ReadInTurn.repeatFrom_eq (h : ReadInTurn eng set begun start texts st) {n : Nat}
    (read : List Statement) (st₁ : st₀.Onward) (hst₁ : st₁.1 = st) (hbegun : begun = !read.isEmpty)
    (hn : texts.length < n) : ∃ later st', repeatFrom readRound eng set n read st₁ =
        some (read.reverse ++ later, st') ∧
      later.map Statement.span = spansOnLines start texts ∧ st'.1.flawed = false ∧
      st'.1.defaults = [] := by
  obtain ⟨n, rfl⟩ := Nat.exists_eq_add_one.2 (Nat.zero_lt_of_lt hn)
  induction h generalizing n read st₁ with
  | nil hend hflawed hdefaults =>
    subst hst₁
    refine ⟨[], st₁, ?_, rfl, hflawed, hdefaults⟩
    rw [repeatFrom_of_end hend, List.append_nil]
  | @cons begun start t texts st shape st' hmore hstart hread hkept hstop hrest ih =>
    subst hst₁ hbegun
    simp only [List.length_cons] at hn
    obtain ⟨n, rfl⟩ := Nat.exists_eq_add_one.2 (show 0 < n by omega)
    obtain ⟨later, st₂, hloop, hspans, hclean⟩ :=
      ih (statementOf st₁.1 shape st'.1 :: read) (st₁.andThen st') rfl rfl n (by omega)
    refine ⟨statementOf st₁.1 shape st'.1 :: later, st₂, ?_, ?_, hclean⟩
    · rw [repeatFrom_of_read hmore hread, hkept]
      simpa using hloop
    · simp [statementOf, spansOnLines, hspans, hstart, hstop]

/-- **What has been read stays read**, and the statements that come after are read in turn, if they
stand on lines. -/
lemma readInTurn_of_repeatFrom {n : Nat} {read : List Statement} {st₁ st' : st₀.Onward}
    {all : List Statement} (hbegun : read.isEmpty = false)
    (h : repeatFrom readRound eng set n read st₁ = some (all, st'))
    (hflawed : st'.1.flawed = false) (hdefaults : st'.1.defaults = []) :
    ∃ later, all = read.reverse ++ later ∧ ∀ start texts,
      later.map Statement.span = spansOnLines start texts →
        ReadInTurn eng set true start texts st₁.1 := by
  induction n generalizing read st₁ with
  | zero => simp [repeatFrom] at h
  | succ n ih =>
    by_cases hend : st₁.1.current.token = .endOfInput
    · rw [repeatFrom_of_end hend] at h
      obtain ⟨rfl, rfl⟩ := Prod.mk.inj (Option.some.inj h)
      refine ⟨[], by simp, fun start texts htexts => ?_⟩
      cases texts with
      | nil => exact .nil hend hflawed hdefaults
      | cons t texts => simp [spansOnLines] at htexts
    · cases hread : eng (.statement false) set st₁.1 with
      | none =>
        rw [repeatFrom_of_none hend hread] at h
        simp at h
      | some result =>
        obtain ⟨shape, st₂⟩ := result
        have hkept : directs true st₁.1 shape = false := rfl
        rw [repeatFrom_of_read hend hread, hbegun, Bool.not_false, hkept,
          if_neg Bool.false_ne_true] at h
        obtain ⟨later, rfl, hlater⟩ := ih rfl h
        refine ⟨statementOf st₁.1 shape st₂.1 :: later, by simp, fun start texts htexts => ?_⟩
        cases texts with
        | nil => simp [spansOnLines] at htexts
        | cons t texts =>
          simp only [List.map_cons, spansOnLines, List.cons.injEq, statementOf,
            Span.mk.injEq] at htexts
          obtain ⟨⟨hstart, hstop⟩, hspans⟩ := htexts
          exact .cons hend hstart hread hkept hstop (hlater _ _ hspans)

/-- Statements are read behind what was read before them. -/
lemma lastStop_le_of_repeatFrom {code : Text}
    (hgoal : ∀ (g : Goal) (st : State), Gives eng st (goal g) (g.Reads st)) {n : Nat}
    {st₁ st' : st₀.Onward} {all : List Statement} (hstands : st₁.1.Stands code)
    (h : repeatFrom readRound eng set n [] st₁ = some (all, st')) :
    ∀ s ∈ all, st₁.1.lastStop ≤ s.span.start := by
  refine gives_repeatFrom (Q := fun all _ => ∀ s ∈ all, st₁.1.lastStop ≤ s.span.start)
    (fun read st => st.Stands code ∧ st₁.1.lastStop ≤ st.lastStop ∧
      ∀ s ∈ read, st₁.1.lastStop ≤ s.span.start)
    (fun read st _ hread => ?_) set n [] st₁ ⟨hstands, le_rfl, by simp⟩ h
  obtain ⟨hstands', hle, hbehind⟩ := hread
  refine gives_token (gives_ite (fun _ => gives_pure (by simpa using hbehind)) fun _ => ?_)
  refine stays_token.gives_bind fun token => ?_
  refine (gives_topStatement hgoal).bind fun top st₂ hleads htop => ?_
  obtain ⟨shape, statement⟩ := top
  obtain ⟨-, hspan, -⟩ := htop
  have hbehind' : ∀ s ∈ statement :: read, st₁.1.lastStop ≤ s.span.start := by
    refine List.forall_mem_cons.2 ⟨?_, hbehind⟩
    rw [hspan]
    exact hle.trans hstands'.lastStop_le
  have hnext : st₂.Stands code ∧ st₁.1.lastStop ≤ st₂.lastStop :=
    ⟨hstands'.leads hleads, hle.trans (hstands'.le_of_leads hleads).1⟩
  exact gives_ite (fun _ => gives_pure ⟨hnext.1, hnext.2, hbehind⟩)
    fun _ => gives_pure ⟨hnext.1, hnext.2, hbehind'⟩

/-- **Statements that stand on lines from the first byte on are read in turn.** A directive before
them would be in their place. -/
lemma readInTurn_of_rounds {code : Text}
    (hgoal : ∀ (g : Goal) (st : State), Gives eng st (goal g) (g.Reads st)) {n : Nat}
    {st₁ st' : st₀.Onward} {all : List Statement} (hstands : st₁.1.Stands code)
    (hempty : texts = [] → st₁.1.current.token = .endOfInput)
    (h : repeatFrom readRound eng set n [] st₁ = some (all, st'))
    (hflawed : st'.1.flawed = false) (hdefaults : st'.1.defaults = [])
    (hspans : all.map Statement.span = spansOnLines 0 texts) :
    ReadInTurn eng set false 0 texts st₁.1 := by
  cases n with
  | zero => simp [repeatFrom] at h
  | succ n =>
    by_cases hend : st₁.1.current.token = .endOfInput
    · rw [repeatFrom_of_end hend] at h
      obtain ⟨rfl, rfl⟩ := Prod.mk.inj (Option.some.inj h)
      cases texts with
      | nil => exact .nil hend hflawed hdefaults
      | cons t texts => simp [spansOnLines] at hspans
    · obtain ⟨t, texts, rfl⟩ := List.exists_cons_of_ne_nil (mt hempty hend)
      cases hread : eng (.statement false) set st₁.1 with
      | none =>
        rw [repeatFrom_of_none hend hread] at h
        simp at h
      | some result =>
        obtain ⟨shape, st₂⟩ := result
        rw [repeatFrom_of_read hend hread] at h
        cases hdirects : directs false st₁.1 shape with
        | true =>
          -- what comes after a directive does not stand at the first byte
          rw [List.isEmpty_nil, Bool.not_true, hdirects, if_pos rfl] at h
          have hpasses : st₁.1.Passes st₂.1 :=
            (hgoal (.statement false) st₁.1 set shape st₂ hread).1
          have hstands₂ : (st₁.andThen st₂).1.Stands code := hstands.leads hpasses.leads
          have hlater := lastStop_le_of_repeatFrom hgoal hstands₂ h
          obtain ⟨first, rest, rfl, hfirst, -⟩ := List.map_eq_cons_iff.1 hspans
          have hbehind : st₂.1.lastStop ≤ first.span.start := hlater first (by simp)
          have hpos : st₁.1.current.span.start < st₂.1.lastStop := hstands.lt_of_passes hpasses
          have hzero : first.span.start = 0 := congrArg Span.start hfirst
          omega
        | false =>
          rw [List.isEmpty_nil, Bool.not_true, hdirects, if_neg Bool.false_ne_true] at h
          obtain ⟨later, rfl, hlater⟩ := readInTurn_of_repeatFrom rfl h hflawed hdefaults
          simp only [List.reverse_singleton, List.singleton_append, List.map_cons, spansOnLines,
            List.cons.injEq, statementOf, Span.mk.injEq] at hspans
          obtain ⟨⟨hstart, hstop⟩, hspans⟩ := hspans
          exact .cons hend hstart hread hdirects hstop (hlater _ _ hspans)

/-- A script has statements if its rounds come to an end with nothing found wrong. -/
lemma statements?_eq_some_iff {code : Text} {statements : List Statement} :
    statements? code = some statements ↔ ∃ st', repeatFrom readRound (read (depthFor code.length))
      (.ofModule (code.length + 2)) (code.length + 2) [] (.here (.ofText code)) =
        some (statements, st') ∧ st'.1.flawed = false ∧ st'.1.defaults = [] := by
  have hrounds : Rule.topStatements (read (depthFor code.length)) (.ofModule (code.length + 2))
      (.ofText code) = repeatFrom readRound (read (depthFor code.length))
        (.ofModule (code.length + 2)) (code.length + 2) [] (.here (.ofText code)) :=
    topStatements_eq _ _ _
  unfold statements?
  dsimp only
  rw [hrounds]
  cases repeatFrom readRound (read (depthFor code.length)) (.ofModule (code.length + 2))
      (code.length + 2) [] (.here (.ofText code)) with
  | none => simp
  | some result =>
    obtain ⟨read, st'⟩ := result
    have hviolated : (st'.1.flawed || !st'.1.defaults.isEmpty) = true ↔
        ¬ (st'.1.flawed = false ∧ st'.1.defaults = []) := by simp [imp_iff_not_or]
    dsimp only
    split_ifs with h
    · have hunclean := hviolated.1 h
      simp only [Option.some.injEq, Prod.mk.injEq, false_iff, not_exists]
      rintro st'' ⟨⟨-, rfl⟩, hclean⟩
      exact hunclean hclean
    · have hclean := not_not.1 (mt hviolated.2 h)
      simp [hclean]

/-- **A blank script has no statements**: its first token is the end. -/
lemma statements?_of_blank {code : Text} (h : code.blank = true) : statements? code = some [] := by
  have hrunner : skipRunnerLine ⟨code, 0⟩ = ⟨code, 0⟩ := by
    unfold skipRunnerLine
    split
    · rename_i s hs
      obtain rfl : code = '#' :: '!' :: s := hs
      have hmark : Text.isBlank '#' = false := by decide
      simp [Text.blank, hmark] at h
    · rfl
  obtain ⟨ended, o, hskip⟩ := skipGap_of_blank h false 0
  have hend : (State.ofText code).current.token = .endOfInput := by
    simp only [State.ofText, hrunner, lex, hskip]
    rfl
  exact statements?_eq_some_iff.2 ⟨_, repeatFrom_of_end hend, rfl, rfl⟩

/-- **Texts each of which is read as one statement** on its line, in the script that they make up.
This is asked of the rounds of reading, where each of them stands: how far a statement goes that
starts with a text is settled only by what comes after it, so nothing is asked of the texts on their
own. -/
def ReadOnLines (texts : List Text) : Prop :=
  let n := (onLines texts).length
  ReadInTurn (read (depthFor n)) (.ofModule (n + 2)) false 0 texts (.ofText (onLines texts))

/-- **Texts on lines are the statements of the script that they make up** just if they are read in
turn.

**Proof sketch.** Induction on the texts in one direction, where a line has characters enough for
its round (`length_le_length_onLines`), and on the rounds in the other one. There a directive could
be read first, but then no statement would start at the first byte (`lastStop_le_of_repeatFrom`),
since something is read for every directive (`gives_read`). -/
theorem statements?_onLines_iff (texts : List Text) :
    (∃ again, statements? (onLines texts) = some again ∧
      again.map Statement.span = spansOnLines 0 texts) ↔ ReadOnLines texts := by
  constructor
  · rintro ⟨again, h, hspans⟩
    obtain ⟨st', hrounds, hflawed, hdefaults⟩ := statements?_eq_some_iff.1 h
    refine readInTurn_of_rounds (gives_read _) (.ofText _) ?_ hrounds hflawed hdefaults hspans
    rintro rfl
    rfl
  · intro h
    have henough : texts.length < (onLines texts).length + 2 :=
      (length_le_length_onLines texts).trans_lt (Nat.lt_add_of_pos_right Nat.two_pos)
    obtain ⟨again, st', hrounds, hspans, hclean⟩ :=
      h.repeatFrom_eq [] (.here (.ofText (onLines texts))) rfl rfl henough
    exact ⟨again, statements?_eq_some_iff.2 ⟨st', hrounds, hclean⟩, hspans⟩

end Script
end OneFile
