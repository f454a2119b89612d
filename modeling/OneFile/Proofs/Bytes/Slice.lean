import Mathlib.Tactic.Common
import OneFile.Proofs.Text.Boundary
import OneFile.Proofs.Text.Search

/-!
# Texts by their bytes

A program that counts in bytes looks at single bytes, and cuts stretches out of a text by the
offsets of bytes. Such a cut can fail: where it ends before it starts or beyond the text, and where
an end of it lies within a character. This module says what a text is byte by byte, when a cut is
fine, and how runs of characters are measured in bytes.

## Main definitions

* `OneFile.Text.octets` — the bytes of a text.
* `OneFile.Text.isCut` — whether an offset is a character boundary, told from the byte there.
* `OneFile.Text.slice?` — a stretch of a text, unless it is out of range or off a boundary.
* `OneFile.Text.GoesByBytes` — a rule for the end of a run that can be told from bytes.

## Main results

* `OneFile.Text.octets_eq_map_bytes` — these are the bytes of the UTF-8 form.
* `OneFile.Text.isCut_iff` — the byte at an offset tells whether it is a boundary.
* `OneFile.Text.slice?_eq_some_iff` — when there is a stretch, and which one.
* `OneFile.Text.length_upTo_octets` — a run has as many bytes by bytes as by characters.

## Design

A byte is written as the character with its number. That is how programs write the bytes that they
look for, and all of these are ASCII: the bytes of other characters have numbers from 128 on.
-/

namespace OneFile

namespace Text

/-! ### Bytes -/

/-- A character outside ASCII, or a byte of one. -/
def IsWide (c : Char) : Prop := 128 ≤ c.toNat

/-- Whether a character is outside ASCII can be decided. -/
instance : DecidablePred IsWide := fun c => inferInstanceAs (Decidable (128 ≤ c.toNat))

/-- A byte that is not the first one of its character. -/
def isContinuation (d : Char) : Bool := 128 ≤ d.toNat && d.toNat < 192

/-- The bytes of a character. -/
def charOctets (c : Char) : List Char := (String.utf8EncodeChar c).map fun b => Char.ofNat b.toNat

/-- **The bytes of a text**, each as the character with its number. -/
def octets (s : Text) : List Char := s.flatMap charOctets

/-- They are the bytes of the UTF-8 form. -/
lemma octets_eq_map_bytes (s : Text) : s.octets = s.bytes.map fun b => Char.ofNat b.toNat := by
  rw [bytes, List.map_flatMap]
  rfl

/-- No characters have no bytes. -/
@[simp] lemma octets_nil : octets [] = [] := rfl

/-- The bytes of a text are those of its first character, and of the others. -/
lemma octets_cons (c : Char) (s : Text) : octets (c :: s) = charOctets c ++ s.octets := rfl

/-- Texts one after another have their bytes one after another. -/
@[simp] lemma octets_append (s t : Text) : octets (s ++ t) = s.octets ++ t.octets :=
  List.flatMap_append

/-- A character has as many bytes as its size says. -/
@[simp] lemma length_charOctets (c : Char) : (charOctets c).length = c.utf8Size := by
  rw [charOctets, List.length_map, String.length_utf8EncodeChar]

/-- A text has as many bytes as its size says. -/
@[simp] lemma length_octets (s : Text) : s.octets.length = s.size := by
  induction s with
  | nil => rfl
  | cons c s ih => rw [octets_cons, List.length_append, ih, length_charOctets, size_cons]

/-- The number of a character that was made of the number of a byte. -/
lemma toNat_ofNat_of_lt {n : Nat} (h : n < 256) : (Char.ofNat n).toNat = n := by
  have hvalid : n.isValidChar := .inl (by omega)
  rw [Char.ofNat, dif_pos hvalid]
  show (UInt32.ofNatLT n _).toNat = n
  simp

/-- **An ASCII character is its only byte.** -/
lemma charOctets_of_ascii {c : Char} (hc : ¬ IsWide c) : charOctets c = [c] := by
  have hle : c.val.toNat ≤ 127 := by
    have hnumber : c.toNat = c.val.toNat := rfl
    unfold IsWide at hc
    omega
  have hbyte : (UInt8.ofNat c.val.toNat).toNat = c.toNat := by
    rw [UInt8.toNat_ofNat']
    exact Nat.mod_eq_of_lt (by omega)
  simp only [charOctets, String.utf8EncodeChar, hle, if_true, List.map_cons, List.map_nil]
  rw [hbyte, Char.ofNat_toNat]

/-- **Of another character, the first byte starts it and the others continue it.** -/
lemma charOctets_of_wide {c : Char} (hc : IsWide c) : ∃ d ds, charOctets c = d :: ds ∧
    192 ≤ d.toNat ∧ ∀ e ∈ ds, isContinuation e = true := by
  have hgt : ¬ c.val.toNat ≤ 127 := by
    have hnumber : c.toNat = c.val.toNat := rfl
    unfold IsWide at hc
    omega
  have hbyte : ∀ n, (Char.ofNat (UInt8.ofNat n).toNat).toNat = n % 256 := by
    intro n
    rw [UInt8.toNat_ofNat', toNat_ofNat_of_lt (Nat.mod_lt _ (by omega))]
  have hlow : ∀ n, isContinuation (Char.ofNat (UInt8.ofNat (n % 64 + 128)).toNat) = true := by
    intro n
    rw [isContinuation, hbyte, Bool.and_eq_true, decide_eq_true_eq, decide_eq_true_eq]
    omega
  unfold charOctets String.utf8EncodeChar
  dsimp only
  split_ifs <;>
    · refine ⟨_, _, rfl, ?_, by simp only [List.forall_mem_map, List.forall_mem_cons, hlow]; simp⟩
      rw [hbyte]
      omega

/-- A byte that continues a character is none of ASCII. -/
lemma isWide_of_isContinuation {d : Char} (h : isContinuation d = true) : IsWide d := by
  simp only [isContinuation, Bool.and_eq_true, decide_eq_true_eq] at h
  exact h.1

/-- The bytes of a character outside ASCII are outside ASCII. -/
lemma isWide_of_mem_charOctets {c d : Char} (hc : IsWide c) (hd : d ∈ charOctets c) : IsWide d := by
  obtain ⟨first, rest, heq, hfirst, hrest⟩ := charOctets_of_wide hc
  rw [heq] at hd
  rcases List.mem_cons.1 hd with rfl | hd
  · exact Nat.le_trans (by omega) hfirst
  · exact isWide_of_isContinuation (hrest d hd)

/-- A byte that is the first one of its character does not continue it. -/
lemma exists_charOctets_eq_cons (c : Char) : ∃ d ds, charOctets c = d :: ds ∧
    isContinuation d = false ∧ ∀ e ∈ ds, isContinuation e = true := by
  by_cases hc : IsWide c
  · obtain ⟨d, ds, heq, hd, hds⟩ := charOctets_of_wide hc
    exact ⟨d, ds, heq, by simp [isContinuation]; omega, hds⟩
  · refine ⟨c, [], charOctets_of_ascii hc, ?_, by simp⟩
    unfold IsWide at hc
    simp [isContinuation]
    omega

/-- A character outside ASCII is no ASCII character. -/
lemma IsWide.ne {c d : Char} (hc : IsWide c) (hd : ¬ IsWide d) : c ≠ d := by
  rintro rfl
  exact hd hc

/-- An ASCII character has one byte. -/
lemma utf8Size_of_ascii {c : Char} (hc : ¬ IsWide c) : c.utf8Size = 1 := by
  rw [← length_charOctets, charOctets_of_ascii hc]
  rfl

/-- An ASCII character comes first byte by byte if it does so as a character. -/
lemma octets_cons_of_ascii {c : Char} (hc : ¬ IsWide c) (s : Text) :
    octets (c :: s) = c :: s.octets := by
  rw [octets_cons, charOctets_of_ascii hc, List.singleton_append]

/-- Bytes that start with an ASCII character are those of a text that starts with it. -/
lemma exists_of_octets_eq_cons {s : Text} {d : Char} {ds : List Char} (hd : ¬ IsWide d)
    (h : s.octets = d :: ds) : ∃ t, s = d :: t ∧ ds = octets t := by
  cases s with
  | nil => cases h
  | cons c s =>
    by_cases hc : IsWide c
    · obtain ⟨first, rest, heq, -⟩ := charOctets_of_wide hc
      rw [octets_cons, heq] at h
      have hwide := isWide_of_mem_charOctets hc (heq ▸ List.mem_cons_self ..)
      exact absurd ((List.cons.inj h).1 ▸ hwide) hd
    · rw [octets_cons_of_ascii hc] at h
      obtain ⟨rfl, rfl⟩ := List.cons.inj h
      exact ⟨s, rfl, rfl⟩

/-- A text that is not empty has a first byte, which is an ASCII character just when the text starts
with that character. -/
lemma exists_octets_cons_eq (c : Char) (s : Text) : ∃ d ds, octets (c :: s) = d :: ds ∧
    ∀ e, ¬ IsWide e → (d = e ↔ c = e) := by
  by_cases hc : IsWide c
  · obtain ⟨d, ds, heq, -⟩ := charOctets_of_wide hc
    have hd : IsWide d := isWide_of_mem_charOctets hc (heq ▸ List.mem_cons_self ..)
    refine ⟨d, ds ++ octets s, by rw [octets_cons, heq, List.cons_append], fun e he => ?_⟩
    simp [hd.ne he, hc.ne he]
  · exact ⟨c, octets s, octets_cons_of_ascii hc s, fun e _ => Iff.rfl⟩

/-- What the first byte of a text is, asked for an ASCII character. -/
lemma head?_octets_eq_some_iff {s : Text} {d : Char} (hd : ¬ IsWide d) :
    s.octets.head? = some d ↔ s.head? = some d := by
  constructor
  · intro h
    obtain ⟨ds, hs⟩ := List.head?_eq_some_iff.1 h
    obtain ⟨t, rfl, -⟩ := exists_of_octets_eq_cons hd hs
    rfl
  · intro h
    obtain ⟨t, rfl⟩ := List.head?_eq_some_iff.1 h
    rw [octets_cons_of_ascii hd, List.head?_cons]

/-- The first byte of a text is an ASCII character just where the text starts with it. -/
lemma head?_octets_iff_exists {s : Text} {d : Char} (hd : ¬ IsWide d) :
    s.octets.head? = some d ↔ ∃ t, s = d :: t :=
  (head?_octets_eq_some_iff hd).trans List.head?_eq_some_iff

/-- From the end of a stretch on, the bytes are those of what follows. -/
@[simp] lemma drop_size_octets (s t : Text) : (octets (s ++ t)).drop s.size = t.octets := by
  rw [octets_append, ← length_octets, List.drop_left]

/-! ### Boundaries -/

/-- **Whether an offset is a character boundary**, told from the byte there. -/
def isCut (s : Text) (n : Nat) : Bool :=
  match s.octets.drop n with
  | [] => n == s.size
  | d :: _ => !isContinuation d

/-- **The byte at an offset tells whether it is a boundary.**

**Proof sketch.** The first byte of a character does not continue one. The other way round, by
induction on the text: an offset within its first character is one of a byte that continues it. -/
theorem isCut_iff {s : Text} {n : Nat} : s.isCut n = true ↔ s.IsBoundary n := by
  constructor
  · intro h
    induction s generalizing n with
    | nil =>
      have hn : n = 0 := by simpa [isCut] using h
      exact ⟨[], [], rfl, by rw [hn]; rfl⟩
    | cons c s ih =>
      obtain ⟨d, ds, heq, -, hds⟩ := exists_charOctets_eq_cons c
      rcases Nat.lt_or_ge n c.utf8Size with hlt | hge
      · cases n with
        | zero => exact ⟨[], c :: s, rfl, rfl⟩
        | succ n =>
          have hlength : n < ds.length := by
            have hsize := length_charOctets c
            rw [heq, List.length_cons] at hsize
            omega
          have hdrop : (octets (c :: s)).drop (n + 1) =
              ds[n] :: (ds.drop (n + 1) ++ octets s) := by
            rw [octets_cons, heq, List.cons_append, List.drop_succ_cons,
              List.drop_append_of_le_length hlength.le, List.drop_eq_getElem_cons hlength,
              List.cons_append]
          rw [isCut, hdrop] at h
          simp [hds] at h
      · obtain ⟨m, rfl⟩ := Nat.exists_eq_add_of_le hge
        have hend : (c.utf8Size + m == c.utf8Size + size s) = (m == size s) := by
          rw [Bool.eq_iff_iff]
          simp
        have hrest : isCut s m = true := by
          rwa [isCut, octets_cons, ← length_charOctets, List.drop_length_add_append,
            length_charOctets, size_cons, hend] at h
        obtain ⟨before, after, rfl, rfl⟩ := ih hrest
        exact ⟨c :: before, after, rfl, rfl⟩
  · rintro ⟨before, after, rfl, rfl⟩
    rw [isCut, drop_size_octets]
    cases after with
    | nil => simp
    | cons c after =>
      obtain ⟨d, ds, heq, hd, -⟩ := exists_charOctets_eq_cons c
      rw [octets_cons, heq]
      simp [hd]

/-! ### Slices -/

/-- **A stretch of a text**, between two offsets, unless it ends before it starts, or an end of it
is out of range or within a character. -/
def slice? (s : Text) (start stop : Nat) : Option Text :=
  if start ≤ stop ∧ s.isCut start = true ∧ s.isCut stop = true then
    some (Span.slice s ⟨start, stop⟩)
  else none

/-- **When there is a stretch, and which one.** -/
theorem slice?_eq_some_iff {s piece : Text} {start stop : Nat} :
    s.slice? start stop = some piece ↔ Span.Names s ⟨start, stop⟩ piece := by
  unfold slice?
  constructor
  · intro h
    split_ifs at h with hall
    exact ⟨Option.some.inj h, isCut_iff.1 hall.2.1, isCut_iff.1 hall.2.2, hall.1⟩
  · intro h
    rw [if_pos ⟨h.start_le_stop, isCut_iff.2 h.isBoundary_start, isCut_iff.2 h.isBoundary_stop⟩,
      h.slice_eq]

/-- A stretch that has text around it. -/
lemma slice?_append (before piece after : Text) :
    (before ++ (piece ++ after)).slice? before.size (before.size + piece.size) = some piece :=
  slice?_eq_some_iff.2 (Span.names_iff.2 ⟨before, after, by simp, rfl⟩)

/-- The stretch up to the end of a text. -/
lemma slice?_append_right (before after : Text) :
    (before ++ after).slice? before.size (before ++ after).size = some after := by
  have h := slice?_append before after []
  rwa [List.append_nil, ← size_append] at h

/-! ### Runs -/

/-- **A rule for the end of a run goes by bytes** if it says the same of an ASCII character whether
it sees the bytes or the characters after it, and cannot tell other characters apart. -/
structure GoesByBytes (ends : Char → Text → Bool) : Prop where
  ascii : ∀ c s, ¬ IsWide c → ends c s.octets = ends c s
  wide : ∀ c d s t, IsWide c → IsWide d → ends c s = ends d t

/-- Characters that do not end a run belong to it. -/
lemma upTo_append_of_false {ends : Char → Text → Bool} {run : Text} (t : Text)
    (h : ∀ c ∈ run, ∀ s, ends c s = false) :
    (upTo ends (run ++ t)).1 = run ++ (upTo ends t).1 := by
  induction run with
  | nil => rfl
  | cons c run ih =>
    rw [List.forall_mem_cons] at h
    rw [List.cons_append, upTo, h.1, ih h.2]
    rfl

/-- **A run has as many bytes by bytes as by characters.** -/
theorem length_upTo_octets {ends : Char → Text → Bool} (h : GoesByBytes ends) (s : Text) :
    (upTo ends s.octets).1.length = (upTo ends s).1.size := by
  induction s with
  | nil => rfl
  | cons c s ih =>
    by_cases hc : IsWide c
    · have hsame : ∀ d ∈ charOctets c, ∀ t, ends d t = ends c s := fun d hd t =>
        h.wide d c t s (isWide_of_mem_charOctets hc hd) hc
      rw [octets_cons]
      cases hends : ends c s with
      | true =>
        obtain ⟨d, ds, heq, -⟩ := charOctets_of_wide hc
        have hd := hsame d (heq ▸ List.mem_cons_self ..) (ds ++ octets s)
        rw [heq, List.cons_append, upTo, hd, upTo, hends]
        rfl
      | false =>
        rw [upTo_append_of_false _ fun d hd t => (hsame d hd t).trans hends, List.length_append,
          ih, length_charOctets, upTo, hends]
        rfl
    · rw [octets_cons_of_ascii hc, upTo, upTo, h.ascii c s hc]
      split_ifs
      · rfl
      · rw [List.length_cons, ih, size_cons, utf8Size_of_ascii hc, Nat.add_comm]

/-- So has a run of characters with a property that does not tell those outside ASCII apart. -/
lemma length_takeWhile_octets {p : Char → Bool} (h : ∀ c d, IsWide c → IsWide d → p c = p d)
    (s : Text) : (s.octets.takeWhile p).length = size (s.takeWhile p) := by
  have hrun : ∀ t : Text, t.takeWhile p = (upTo (fun c _ => !p c) t).1 := by
    intro t
    induction t with
    | nil => rfl
    | cons c t ih => cases hc : p c <;> simp [upTo, hc, ih]
  have hbytes : GoesByBytes fun c _ => !p c := ⟨fun _ _ _ => rfl, fun c d _ _ hc hd => by
    rw [h c d hc hd]⟩
  rw [hrun, hrun, length_upTo_octets hbytes]

end Text

/-! ### Places -/

namespace Cursor

variable {source : Text} {c c' : Cursor}

/-- The bytes from a place on are those of what is left. -/
lemma In.drop_octets (h : c.In source) : source.octets.drop c.offset = c.rest.octets := by
  obtain ⟨before, rfl, hsize⟩ := h
  rw [← hsize, Text.drop_size_octets]

/-- What is read between two places is the stretch between them. -/
lemma In.slice? {piece : Text} (h : c.In source) (hread : c.Reads piece c') :
    source.slice? c.offset c'.offset = some piece :=
  Text.slice?_eq_some_iff.2 (hread.names h)

/-- What is left is the stretch up to the end. -/
lemma In.slice?_rest (h : c.In source) : source.slice? c.offset source.size = some c.rest := by
  obtain ⟨before, rfl, hsize⟩ := h
  rw [← hsize, Text.slice?_append_right]

/-- A place with less left is further on. -/
lemma Reads.offset_lt {piece : Text} (h : c.Reads piece c')
    (hshorter : c'.rest.length < c.rest.length) : c.offset < c'.offset := by
  have hne : piece ≠ [] := by
    rintro rfl
    rw [h.rest_eq, List.nil_append] at hshorter
    exact Nat.lt_irrefl _ hshorter
  have hpos := Text.size_pos hne
  rw [h.offset_eq]
  omega

end Cursor

end OneFile
