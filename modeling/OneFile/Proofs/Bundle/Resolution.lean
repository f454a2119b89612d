import Mathlib.Data.List.DropRight
import Mathlib.Data.List.Induction
import Mathlib.Logic.Relation
import OneFile.Bundle.Plugin
import OneFile.Proofs.Text.Search

/-!
# The file that a relative import denotes

An import that starts with a dot is taken from the directory of the file that makes it: its
segments come after those of the directory, and two dots take back the named segment before them.
What the two dots mean is said here by single cancellations, in any order, which always lead to
the same end: some climbs that nothing is left for, and then names.

At the root of an absolute path there is nothing to climb to. In a relative path the climbs are
part of the path. Resolving drops them in both cases, so a relative path that climbs beyond its
start comes out as another file.

## Main definitions

* `OneFile.Bundle.Path.Cancels` — two dots taken together with the named segment before them.
* `OneFile.Bundle.Path.Resolves` — segments come down to climbs and names.
* `OneFile.Bundle.Denotes` — the path that an import made by a file denotes.

## Main results

* `OneFile.Bundle.Path.exists_resolves`, `OneFile.Bundle.Path.Resolves.unique` — segments come down
  to one list of climbs and names.
* `OneFile.Bundle.Path.Resolves.fold_eq` — folding keeps the names and drops the climbs.
* `OneFile.Bundle.resolve?_denotes` — when resolving finds the file that is denoted.
-/

namespace OneFile.Bundle

namespace Path

/-! ### Taking segments back -/

/-- The segment that leads to the directory above. -/
def up : Text := ['.', '.']

/-- **A named segment is taken back** by the two dots right after it. -/
inductive Cancels : List Text → List Text → Prop
  | pair (before after : List Text) {name : Text} (hname : name ≠ up) :
      Cancels (before ++ name :: up :: after) (before ++ after)

/-- **Segments come down to climbs and names**: after some cancellations there are `climbs` times
two dots, which nothing is left to be taken back by, and then names only. -/
def Resolves (segments : List Text) (climbs : Nat) (names : List Text) : Prop :=
  Relation.ReflTransGen Cancels segments (List.replicate climbs up ++ names) ∧ up ∉ names

/-- Cancellations do not depend on what follows. -/
lemma Cancels.append_right {segments segments' : List Text} (h : Cancels segments segments')
    (rest : List Text) : Cancels (segments ++ rest) (segments' ++ rest) := by
  obtain ⟨before, after, hname⟩ := h
  simpa using Cancels.pair before (after ++ rest) hname

/-- **One more segment**: two dots take back the last name, or are one more climb if there is
none. -/
lemma Resolves.concat {segments names : List Text} {climbs : Nat}
    (h : Resolves segments climbs names) (segment : Text) :
    ∃ climbs' names', Resolves (segments ++ [segment]) climbs' names' := by
  obtain ⟨hsteps, hnames⟩ := h
  have hsteps' : Relation.ReflTransGen Cancels (segments ++ [segment])
      (List.replicate climbs up ++ names ++ [segment]) :=
    hsteps.lift (· ++ [segment]) fun _ _ hstep => hstep.append_right [segment]
  by_cases hsegment : segment = up
  · subst hsegment
    cases names using List.reverseRecOn with
    | nil =>
      refine ⟨climbs + 1, [], ?_, List.not_mem_nil⟩
      rw [List.append_nil] at hsteps'
      rwa [List.append_nil, List.replicate_succ']
    | append_singleton names name =>
      have hname : name ≠ up := fun heq => hnames (by simp [heq])
      refine ⟨climbs, names, hsteps'.tail ?_, fun hmem => hnames (by simp [hmem])⟩
      simpa using Cancels.pair (List.replicate climbs up ++ names) [] hname
  · refine ⟨climbs, names ++ [segment], ?_, by simp [hnames, Ne.symm hsegment]⟩
    rwa [← List.append_assoc]

/-- **Segments always come down to climbs and names.** -/
theorem exists_resolves (segments : List Text) :
    ∃ climbs names, Resolves segments climbs names := by
  induction segments using List.reverseRecOn with
  | nil => exact ⟨0, [], .refl, List.not_mem_nil⟩
  | append_singleton segments segment ih =>
    obtain ⟨climbs, names, h⟩ := ih
    exact h.concat segment

/-! ### What cancellations keep -/

/-- Climbs and names, latest name first, after one more segment. -/
def climbStep (state : Nat × List Text) (segment : Text) : Nat × List Text :=
  if segment = up then
    match state.2 with
    | [] => (state.1 + 1, [])
    | _ :: below => (state.1, below)
  else (state.1, segment :: state.2)

/-- A name is the latest one. -/
lemma climbStep_name (state : Nat × List Text) {name : Text} (h : name ≠ up) :
    climbStep state name = (state.1, name :: state.2) :=
  if_neg h

/-- Two dots take back the latest name. -/
lemma climbStep_up (climbs : Nat) (name : Text) (below : List Text) :
    climbStep (climbs, name :: below) up = (climbs, below) :=
  if_pos rfl

/-- A cancellation does not change what the segments climb and name. -/
lemma Cancels.foldl_eq {segments segments' : List Text} (h : Cancels segments segments')
    (state : Nat × List Text) :
    segments.foldl climbStep state = segments'.foldl climbStep state := by
  obtain ⟨before, after, hname⟩ := h
  rw [List.foldl_append, List.foldl_cons, List.foldl_cons, climbStep_name _ hname, climbStep_up,
    List.foldl_append]

/-- Names come after the ones before. -/
lemma foldl_names (state : Nat × List Text) {names : List Text} (h : up ∉ names) :
    names.foldl climbStep state = (state.1, names.reverse ++ state.2) := by
  induction names generalizing state with
  | nil => rfl
  | cons name names ih =>
    obtain ⟨hname, hnames⟩ := List.ne_and_not_mem_of_not_mem_cons h
    rw [List.foldl_cons, climbStep_name state hname.symm, ih _ hnames]
    simp

/-- Climbs add up as long as there are no names. -/
lemma foldl_climbs (climbs k : Nat) :
    (List.replicate k up).foldl climbStep (climbs, []) = (climbs + k, []) := by
  induction k generalizing climbs with
  | zero => rfl
  | succ k ih =>
    have hstep : climbStep (climbs, []) up = (climbs + 1, []) := if_pos rfl
    rw [List.replicate_succ, List.foldl_cons, hstep, ih, Nat.add_assoc, Nat.add_comm 1]

/-- **What segments come down to is what they climb and name.** -/
lemma Resolves.foldl_eq {segments names : List Text} {climbs : Nat}
    (h : Resolves segments climbs names) :
    segments.foldl climbStep (0, []) = (climbs, names.reverse) := by
  obtain ⟨hsteps, hnames⟩ := h
  induction hsteps using Relation.ReflTransGen.head_induction_on with
  | refl =>
    rw [List.foldl_append, foldl_climbs, foldl_names _ hnames, Nat.zero_add, List.append_nil]
  | head hstep _ ih => rw [hstep.foldl_eq, ih]

/-- **Segments come down to one list of climbs and names**, whatever is cancelled first. -/
theorem Resolves.unique {segments names names' : List Text} {climbs climbs' : Nat}
    (h : Resolves segments climbs names) (h' : Resolves segments climbs' names') :
    climbs = climbs' ∧ names = names' := by
  have heq := h.foldl_eq.symm.trans h'.foldl_eq
  rw [Prod.mk.injEq, List.reverse_inj] at heq
  exact heq

/-- Folding does not count the climbs. -/
lemma foldl_foldStep (segments : List Text) (state : Nat × List Text) :
    segments.foldl foldStep state.2 = (segments.foldl climbStep state).2 := by
  induction segments generalizing state with
  | nil => rfl
  | cons segment segments ih =>
    have hstep : foldStep state.2 segment = (climbStep state segment).2 := by
      unfold foldStep climbStep up
      split_ifs
      · cases state.2 <;> rfl
      · rfl
    rw [List.foldl_cons, List.foldl_cons, hstep, ih]

/-- **Folding keeps the names and drops the climbs.** -/
theorem Resolves.fold_eq {segments names : List Text} {climbs : Nat}
    (h : Resolves segments climbs names) (absolute : Bool) :
    fold ⟨absolute, segments⟩ = ⟨absolute, names⟩ := by
  have hfold : segments.foldl foldStep [] = names.reverse := by
    rw [foldl_foldStep segments (0, []), h.foldl_eq]
  rw [fold, hfold, List.reverse_reverse]

/-! ### Segments of a text -/

/-- The stretches between slashes are those of the library. -/
lemma split_eq_splitOn (s : Text) : split s = s.splitOn '/' := by
  induction s with
  | nil => rfl
  | cons c s ih =>
    obtain ⟨t, ts, hs⟩ := List.exists_cons_of_ne_nil (List.splitOn_ne_nil '/' s)
    rw [split, ih, List.splitOn_cons_eq_if_modifyHead, hs]
    by_cases hc : c = '/'
    · rw [if_pos hc, if_pos (by simpa using hc)]
    · rw [if_neg hc, if_neg (by simpa using hc)]
      rfl

/-- A stretch without a slash is the last segment. -/
lemma split_append {directory : Text} (hdirectory : ∀ c ∈ directory.getLast?, c = '/') {base : Text}
    (hbase : '/' ∉ base) (hnamed : isNamed base = true) :
    (split (directory ++ base)).filter isNamed = (split directory).filter isNamed ++ [base] := by
  have hsplit : split base = [base] := by
    rw [split_eq_splitOn, List.splitOn_eq_singleton hbase]
  have hkeep : [base].filter isNamed = [base] := by rw [List.filter_singleton, hnamed, cond_true]
  cases directory using List.reverseRecOn with
  | nil =>
    rw [List.nil_append, hsplit, hkeep]
    rfl
  | append_singleton above c _ =>
    obtain rfl : c = '/' := hdirectory c (by simp)
    rw [split_eq_splitOn, List.append_assoc, List.singleton_append, List.splitOn_append_cons_self,
      ← split_eq_splitOn, ← split_eq_splitOn, hsplit, split_eq_splitOn (above ++ ['/']),
      List.splitOn_append_cons_self, ← split_eq_splitOn, List.filter_append, List.filter_append,
      hkeep]
    simp [isNamed]

/-- One more segment makes the text of a path longer. -/
lemma length_intercalate_lt {segment : Text} (hsegment : segment ≠ []) (segments : List Text) :
    (['/'].intercalate segments).length < (['/'].intercalate (segment :: segments)).length := by
  have hpos : 0 < segment.length := List.length_pos_iff.2 hsegment
  cases segments with
  | nil => simpa using hpos
  | cons next rest => simp [List.intercalate_cons_cons]; omega

/-- **Climbs are part of the text** of a relative path. -/
lemma toText_ne_of_climbs {climbs : Nat} (hclimbs : climbs ≠ 0) (names : List Text) :
    toText ⟨false, names⟩ ≠ toText ⟨false, List.replicate climbs up ++ names⟩ := by
  have hlength : ∀ k, (['/'].intercalate names).length + k ≤
      (['/'].intercalate (List.replicate k up ++ names)).length := by
    intro k
    induction k with
    | zero => simp
    | succ k ih =>
      have hup : up ≠ [] := by decide
      have hlt := length_intercalate_lt hup (List.replicate k up ++ names)
      rw [List.replicate_succ, List.cons_append]
      omega
  intro heq
  have hsame := congrArg List.length heq
  simp only [toText, Bool.false_eq_true, if_false, List.nil_append] at hsame
  have := hlength climbs
  omega

end Path

/-! ### What an import denotes -/

open OneFile.Bundle.Path

/-- The directory of a file, up to and with the last slash. -/
def directory (file : Text) : Text := file.rdropWhile (· ≠ '/')

/-- The segments that an import passes: those of the file's directory and then its own, without
empty ones and single dots. -/
def importSegments (file id : Text) : List Text :=
  ((directory file).splitOn '/' ++ id.splitOn '/').filter isNamed

/-- **The path that an import denotes**, made by a file. At the root there is nothing to climb to;
a relative path keeps its climbs. -/
def Denotes (file id t : Text) : Prop :=
  ∃ climbs names, Resolves (importSegments file id) climbs names ∧
    t = if file.head? = some '/' then toText ⟨true, names⟩
      else toText ⟨false, List.replicate climbs up ++ names⟩

/-- The path of a compiled module lies in the directory of its file. -/
lemma parent_module (file : Text) : (ofText (file ++ Part.module.extension)).parent =
    ⟨file.head? == some '/', ((directory file).splitOn '/').filter isNamed⟩ := by
  obtain ⟨base, hbase, hfile⟩ : ∃ base, '/' ∉ base ∧ file = directory file ++ base :=
    ⟨file.rtakeWhile (· ≠ '/'), fun hmem => by simpa using List.mem_rtakeWhile_imp hmem,
      List.rdropWhile_append_rtakeWhile.symm⟩
  have hlast : ∀ c ∈ (directory file).getLast?, c = '/' := by
    intro c hc
    obtain ⟨hne, rfl⟩ := List.mem_getLast?_eq_getLast hc
    simpa [directory] using List.rdropWhile_last_not (· ≠ '/') file hne
  have hmodule : '/' ∉ base ++ Part.module.extension := by
    simpa [hbase] using (by decide +kernel : '/' ∉ Part.module.extension)
  have hnamed : isNamed (base ++ Part.module.extension) = true := by
    cases base with
    | nil => decide +kernel
    | cons c base => simp [isNamed, Part.extension]
  have hhead : ((file ++ Part.module.extension).head? == some '/') = (file.head? == some '/') := by
    cases file with
    | nil => decide +kernel
    | cons c file => rfl
  have hsegments := split_append hlast hmodule hnamed
  rw [← List.append_assoc, ← hfile] at hsegments
  rw [ofText, hsegments, hhead, parent, if_neg (by simp), List.dropLast_concat, split_eq_splitOn]

/-- What resolving an import is, by the segments that it passes. -/
lemma resolve?_module {file id : Text} (hid : id.head? = some '.') :
    resolve? id (some (VirtualId.mk file .module).toText) =
      some (fold ⟨file.head? == some '/', importSegments file id⟩).toText := by
  have hmarker : marker.isPrefixOf id = false := by
    cases id with
    | nil => simp at hid
    | cons c id =>
      obtain rfl : c = '.' := by simpa using hid
      rfl
  have himporter : marker.isPrefixOf? (VirtualId.mk file .module).toText =
      some (file ++ Part.module.extension) := by
    rw [List.isPrefixOf?_eq_some_iff_append_eq, VirtualId.toText, List.append_assoc]
  have hsegments : importSegments file id =
      ((directory file).splitOn '/').filter isNamed ++ (ofText id).segments := by
    rw [importSegments, List.filter_append, ofText, split_eq_splitOn]
  simp only [resolve?, hmarker, Bool.false_eq_true, if_false, Option.bind_some, himporter, hid,
    if_true, parent_module, join, hsegments]

/-- **An import resolves to the names that are left of its segments**, which is the file that it
denotes except if it climbs from a relative path.

**Proof sketch.** The segments come down to one list of climbs and names (`exists_resolves`,
`Resolves.unique`), of which folding keeps the names (`Resolves.fold_eq`). So the climbs are all
that can be missing, and they are part of the text of a relative path (`toText_ne_of_climbs`). -/
theorem resolve?_denotes {file id : Text} (hid : id.head? = some '.') :
    (∃! t, Denotes file id t) ∧
      ∃ t climbs names, resolve? id (some (VirtualId.mk file .module).toText) = some t ∧
        Resolves (importSegments file id) climbs names ∧
        t = toText ⟨file.head? == some '/', names⟩ ∧
        (Denotes file id t ↔ file.head? = some '/' ∨ climbs = 0) ∧
        (file.head? = some '/' → t.head? = some '/') := by
  obtain ⟨climbs, names, hresolves⟩ := exists_resolves (importSegments file id)
  have hdenotes : ∀ t, Denotes file id t ↔ t = if file.head? = some '/' then toText ⟨true, names⟩
      else toText ⟨false, List.replicate climbs up ++ names⟩ := by
    intro t
    constructor
    · rintro ⟨climbs', names', hresolves', ht⟩
      obtain ⟨rfl, rfl⟩ := hresolves.unique hresolves'
      exact ht
    · exact fun ht => ⟨climbs, names, hresolves, ht⟩
  refine ⟨⟨_, (hdenotes _).2 rfl, fun t ht => (hdenotes t).1 ht⟩, _, climbs, names,
    resolve?_module hid, hresolves, by rw [hresolves.fold_eq], ?_, ?_⟩
  · rw [hdenotes, hresolves.fold_eq]
    by_cases habsolute : file.head? = some '/'
    · simp [habsolute]
    · rw [if_neg habsolute, beq_false_of_ne habsolute, or_iff_right habsolute]
      constructor
      · intro heq
        by_contra hclimbs
        exact toText_ne_of_climbs hclimbs names heq
      · rintro rfl
        rfl
  · intro habsolute
    rw [hresolves.fold_eq, habsolute]
    rfl

/-- An import that climbs once from an absolute path is the file that it denotes. -/
theorem resolve?_denotes_absolute : ("../lib/util.js".toList : Text).head? = some '.' ∧
    Denotes "/src/pages/App.sfc".toList "../lib/util.js".toList "/src/lib/util.js".toList := by
  have hid : ("../lib/util.js".toList : Text).head? = some '.' := by decide +kernel
  refine ⟨hid, ?_⟩
  obtain ⟨-, t, climbs, names, hresolve, -, -, hiff, -⟩ :=
    @resolve?_denotes "/src/pages/App.sfc".toList _ hid
  have ht : resolve? "../lib/util.js".toList
      (some (VirtualId.mk "/src/pages/App.sfc".toList .module).toText) =
        some "/src/lib/util.js".toList := by decide +kernel
  obtain rfl := Option.some.inj (hresolve.symm.trans ht)
  exact hiff.2 (.inl (by decide +kernel))

/-- **An import that climbs beyond the start of a relative path** resolves to a file beside the one
that makes it. -/
theorem resolve?_drops_climb :
    resolve? "../x.js".toList (some (VirtualId.mk "a.sfc".toList .module).toText) =
        some "x.js".toList ∧
      Denotes "a.sfc".toList "../x.js".toList "../x.js".toList ∧
      ¬ Denotes "a.sfc".toList "../x.js".toList "x.js".toList := by
  have hsegments : importSegments "a.sfc".toList "../x.js".toList = [up, "x.js".toList] := by
    decide +kernel
  have hresolves : Resolves (importSegments "a.sfc".toList "../x.js".toList) 1 ["x.js".toList] := by
    rw [hsegments]
    exact ⟨.refl, by decide +kernel⟩
  refine ⟨by decide +kernel, ⟨1, _, hresolves, by decide +kernel⟩, ?_⟩
  rintro ⟨climbs, names, hresolves', ht⟩
  obtain ⟨rfl, rfl⟩ := hresolves.unique hresolves'
  exact absurd ht (by decide +kernel)

end OneFile.Bundle
