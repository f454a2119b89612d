import Mathlib.Data.List.TakeWhile
import Mathlib.Data.Nat.Find
import OneFile.Proofs.Bytes.Slice
import OneFile.Proofs.Text.Location

/-!
# Lines, columns and margins by bytes

Two places that cut a text at an offset which need not be a boundary: the place of an error, which
is given in bytes, and the margin of a line, which is measured in bytes on other lines. Both go back
to a boundary first.

## Main definitions

* `OneFile.Bytewise.floorCut` — the last boundary up to an offset.
* `OneFile.Bytewise.lastOffset?` — where an ASCII character occurs last.
* `OneFile.Bytewise.locate?` — the line and the column of an offset.
* `OneFile.Bytewise.dedent?` — the lines of a text without their common margin.

## Main results

* `OneFile.Bytewise.floorCut_min` — up to that boundary come the whole characters before the offset.
* `OneFile.Bytewise.locate?_eq`, `OneFile.Bytewise.dedent?_eq` — both are what they are by
  characters, and every cut is fine.
-/

namespace OneFile.Bytewise

open Text

/-! ### Going back to a boundary -/

/-- **The last boundary up to an offset**, found by going back byte by byte. -/
def floorCut (s : Text) (n : Nat) : Nat := Nat.findGreatest (fun m => s.isCut m = true) n

/-- **Up to the last boundary come the whole characters before the offset.** -/
theorem floorCut_min (s : Text) (n : Nat) :
    floorCut s (min n s.size) = (within n s).size := by
  have hsize := congrArg size (within_append n s)
  rw [size_append] at hsize
  have hboundary : s.IsBoundary (within n s).size :=
    ⟨_, _, (within_append n s).symm, rfl⟩
  refine Nat.findGreatest_eq_iff.2 ⟨?_, fun _ => isCut_iff.2 hboundary, fun m hlt hm hcut => ?_⟩
  · exact Nat.le_min.2 ⟨size_within_le n s, by omega⟩
  · have hle := le_size_within (isCut_iff.1 hcut) (hm.trans (Nat.min_le_left _ _))
    omega

/-! ### Lines and columns -/

/-- **Where an ASCII character occurs last**, looked for from the last byte on. -/
def lastOffset? (d : Char) (s : Text) : Option Nat :=
  match s.octets.reverse.dropWhile (· != d) with
  | [] => none
  | _ :: before => some before.length

/-- The line and the column of an offset. -/
def locate? (s : Text) (offset : Nat) : Option Location :=
  match s.slice? 0 (floorCut s (min offset s.size)) with
  | none => none
  | some before =>
    match lastOffset? '\n' before with
    | none => some ⟨before.count '\n' + 1, before.length + 1⟩
    | some last =>
      match before.slice? (last + 1) before.size with
      | none => none
      | some line => some ⟨before.count '\n' + 1, line.length + 1⟩

/-- An ASCII character is among the bytes of a text if it is among its characters. -/
lemma mem_of_mem_octets {d : Char} {s : Text} (hd : ¬ IsWide d) (h : d ∈ s.octets) : d ∈ s := by
  obtain ⟨c, hc, hmem⟩ := List.mem_flatMap.1 h
  by_cases hwide : IsWide c
  · exact absurd (isWide_of_mem_charOctets hwide hmem) hd
  · rw [charOctets_of_ascii hwide, List.mem_singleton] at hmem
    exact hmem ▸ hc

/-- A character that does not occur has no last place. -/
lemma lastOffset?_of_notMem {d : Char} {s : Text} (hd : ¬ IsWide d) (h : d ∉ s) :
    lastOffset? d s = none := by
  have hnone : s.octets.reverse.dropWhile (· != d) = [] := by
    rw [List.dropWhile_eq_nil_iff]
    intro e he
    exact bne_iff_ne.2 fun heq => h (mem_of_mem_octets hd (heq ▸ List.mem_reverse.1 he))
  rw [lastOffset?, hnone]

/-- A character occurs last where it does not occur afterwards. -/
lemma lastOffset?_append {d : Char} (hd : ¬ IsWide d) (before : Text) {after : Text}
    (h : d ∉ after) : lastOffset? d (before ++ d :: after) = some before.size := by
  have hfound : (octets (before ++ d :: after)).reverse.dropWhile (· != d) =
      d :: before.octets.reverse := by
    have hskip : ∀ e ∈ after.octets.reverse, (e != d) = true := fun e he =>
      bne_iff_ne.2 fun heq => h (mem_of_mem_octets hd (heq ▸ List.mem_reverse.1 he))
    rw [octets_append, octets_cons_of_ascii hd, List.reverse_append, List.reverse_cons,
      List.append_assoc, List.dropWhile_append_of_pos hskip]
    simp
  rw [lastOffset?, hfound]
  dsimp only
  rw [List.length_reverse, length_octets]

/-- **A place is found as it is by characters**, for any offset, and every cut is fine. -/
theorem locate?_eq (s : Text) (offset : Nat) : locate? s offset = some (s.locate offset) := by
  have hbefore : s.slice? 0 (within offset s).size = some (within offset s) := by
    have h := slice?_append [] (within offset s) (dropWithin offset s)
    rwa [List.nil_append, within_append, size_nil, Nat.zero_add] at h
  rw [locate?, floorCut_min, hbefore, locate]
  dsimp only
  obtain ⟨whole, line, hsplit, hwhole, hline⟩ := exists_wholeLines (within offset s)
  rw [hsplit, Location.after_start hwhole hline]
  obtain rfl | ⟨start, rfl⟩ := hwhole
  · rw [List.nil_append, lastOffset?_of_notMem (by decide) hline, List.count_eq_zero.2 hline]
    rfl
  · have hcut : slice? (start ++ '\n' :: line) (size start + 1) (size (start ++ '\n' :: line)) =
        some line := by
      have h := slice?_append_right (start ++ ['\n']) line
      rwa [List.append_assoc, size_append start] at h
    have hcount : (start ++ '\n' :: line).count '\n' = (start ++ ['\n']).count '\n' := by
      rw [List.count_append, List.count_append, List.count_cons_self, List.count_eq_zero.2 hline]
      rfl
    rw [List.append_assoc, List.singleton_append, lastOffset?_append (by decide) start hline]
    dsimp only
    rw [hcut, hcount]

/-! ### Margins -/

/-- The bytes of leading blanks, as what the text loses by trimming. -/
def marginSize (line : Text) : Nat := line.size - line.trimStart.size

/-- One line without its margin and without blanks at its end. -/
def dropMargin? (common : Nat) (line : Text) : Option Text :=
  (line.slice? (floorCut line (min common (marginSize line))) line.size).map trimEnd

/-- The lines of a text without their common margin. -/
def dedent? (s : Text) : Option Text :=
  let content := s.lines.filter fun line => !line.trim.isEmpty
  let common := (content.map marginSize).min?.getD 0
  (s.lines.mapM (dropMargin? common)).map unlines

/-- Trimming takes the leading blanks away. -/
lemma marginSize_eq (line : Text) : marginSize line = margin line := by
  have hsize := congrArg size (List.takeWhile_append_dropWhile (p := isBlank) (l := line))
  rw [size_append] at hsize
  unfold marginSize margin trimStart
  omega

/-- A text is blank if trimming leaves nothing of it. -/
lemma isEmpty_trim (s : Text) : s.trim.isEmpty = s.blank := by
  rw [Bool.eq_iff_iff, List.isEmpty_iff, blank, List.all_eq_true]
  unfold trim trimEnd trimStart
  rw [List.reverse_eq_nil_iff, List.dropWhile_eq_nil_iff]
  constructor
  · intro h c hc
    rw [← List.takeWhile_append_dropWhile (p := isBlank) (l := s)] at hc
    rcases List.mem_append.1 hc with hc | hc
    · exact List.mem_takeWhile_imp hc
    · exact h c (List.mem_reverse.2 hc)
  · intro h c hc
    exact h c ((List.dropWhile_sublist isBlank).mem (List.mem_reverse.1 hc))

/-- A line loses its margin as it does by characters. -/
lemma dropMargin?_eq (common : Nat) (line : Text) :
    dropMargin? common line = some (dropMargin common line) := by
  have hmargin : marginSize line ≤ line.size := Nat.sub_le _ _
  have hcut : floorCut line (min common (marginSize line)) =
      (within (min common (marginSize line)) line).size := by
    rw [← floorCut_min, Nat.min_eq_left ((Nat.min_le_right _ _).trans hmargin)]
  have hslice := slice?_append_right (within (min common (marginSize line)) line)
    (dropWithin (min common (marginSize line)) line)
  rw [within_append] at hslice
  rw [dropMargin?, hcut, hslice, marginSize_eq]
  rfl

/-- **A text is moved to the left as it is by characters**, and every cut is fine. -/
theorem dedent?_eq (s : Text) : dedent? s = some (dedent s) := by
  have hmargins : marginSize = margin := funext marginSize_eq
  have hlines : ∀ common, dropMargin? common = fun line => some (dropMargin common line) :=
    fun common => funext (dropMargin?_eq common)
  unfold dedent? dedent commonMargin
  simp only [isEmpty_trim, hmargins, hlines]
  exact congrArg (Option.map unlines) List.mapM_pure

end OneFile.Bytewise
