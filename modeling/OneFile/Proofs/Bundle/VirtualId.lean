import Mathlib.Data.List.Infix
import OneFile.Bundle.Plugin

/-!
# Virtual ids read back

A virtual id is written as a marker, the id of a file, and an extension for the part of the
compiled file that is meant. File ids can look like virtual ids themselves: they may start with
the marker or end in one of the extensions. Reading takes off one marker and one extension only,
so it is the inverse of writing, and no two virtual ids are written alike.

## Main results

* `OneFile.Bundle.VirtualId.ofText?_eq_some` — a virtual id is read from just what it is written
  as.
* `OneFile.Bundle.VirtualId.toText_inj` — no two virtual ids are written alike.
-/

namespace OneFile

namespace Text

/-- A suffix can be dropped from just the texts that end in it. -/
lemma dropSuffix?_eq_some {suffix s t : Text} :
    dropSuffix? suffix s = some t ↔ s = t ++ suffix := by
  simp only [dropSuffix?, Option.map_eq_some_iff, List.isPrefixOf?_eq_some_iff_append_eq]
  constructor
  · rintro ⟨r, hr, rfl⟩
    rw [← List.reverse_inj, ← hr, List.reverse_append, List.reverse_reverse]
  · rintro rfl
    exact ⟨t.reverse, by simp, by simp⟩

end Text

namespace Bundle.VirtualId

/-- The extension of a part tells it from the other one, whatever comes before. -/
lemma append_extension_inj {file file' : Text} {part part' : Part} :
    file ++ part.extension = file' ++ part'.extension ↔ file = file' ∧ part = part' := by
  constructor
  · intro h
    have hlength : part.extension.length = part'.extension.length := by
      cases part <;> cases part' <;> decide +kernel
    obtain ⟨rfl, hextension⟩ := List.append_inj' h hlength
    refine ⟨rfl, ?_⟩
    have hne : Part.module.extension ≠ Part.stylesheet.extension := by decide +kernel
    cases part with
    | module =>
      cases part' with
      | module => rfl
      | stylesheet => exact absurd hextension hne
    | stylesheet =>
      cases part' with
      | module => exact absurd hextension.symm hne
      | stylesheet => rfl
  · rintro ⟨rfl, rfl⟩
    rfl

/-- **No two virtual ids are written alike.** -/
theorem toText_inj {v w : VirtualId} : v.toText = w.toText ↔ v = w := by
  obtain ⟨file, part⟩ := v
  obtain ⟨file', part'⟩ := w
  rw [toText, toText, List.append_assoc, List.append_assoc, List.append_cancel_left_eq,
    append_extension_inj, mk.injEq]

/-- What is read after the marker. -/
lemma ofText?_marker_append (body : Text) : ofText? (marker ++ body) =
    match Text.dropSuffix? Part.module.extension body,
      Text.dropSuffix? Part.stylesheet.extension body with
    | some file, _ => if isFileId file then some ⟨file, .module⟩ else none
    | none, some file => if isFileId file then some ⟨file, .stylesheet⟩ else none
    | none, none => none := by
  have h : marker.isPrefixOf? (marker ++ body) = some body :=
    List.isPrefixOf?_eq_some_iff_append_eq.2 rfl
  unfold ofText?
  split
  · rename_i hnone
    exact absurd (h.symm.trans hnone) nofun
  · rename_i body' hbody
    obtain rfl : body = body' := Option.some.inj (h.symm.trans hbody)
    rfl

/-- A virtual id that is written is read back if its file id can stand in one. -/
lemma ofText?_toText (v : VirtualId) :
    ofText? v.toText = if isFileId v.file then some v else none := by
  obtain ⟨file, part⟩ := v
  have hself : Text.dropSuffix? part.extension (file ++ part.extension) = some file :=
    Text.dropSuffix?_eq_some.2 rfl
  rw [toText, List.append_assoc, ofText?_marker_append]
  cases part with
  | module => rw [hself]
  | stylesheet =>
    have hother : Text.dropSuffix? Part.module.extension (file ++ Part.stylesheet.extension) =
        none := by
      refine Option.eq_none_iff_forall_ne_some.2 fun t ht => ?_
      exact absurd (append_extension_inj.1 (Text.dropSuffix?_eq_some.1 ht)).2 (by decide)
    rw [hother, hself]

/-- **A virtual id is read from just what it is written as**, if its file id can stand in one. -/
theorem ofText?_eq_some {s : Text} {v : VirtualId} :
    ofText? s = some v ↔ s = v.toText ∧ isFileId v.file = true := by
  constructor
  · intro h
    obtain ⟨body, rfl⟩ : ∃ body, s = marker ++ body := by
      cases hbody : marker.isPrefixOf? s with
      | none => simp [ofText?, hbody] at h
      | some body => exact ⟨body, (List.isPrefixOf?_eq_some_iff_append_eq.1 hbody).symm⟩
    have hw : ∃ w : VirtualId, w.toText = marker ++ body := by
      rw [ofText?_marker_append] at h
      split at h
      · rename_i file hfile
        exact ⟨⟨file, .module⟩, by simp [Text.dropSuffix?_eq_some.1 hfile, toText]⟩
      · rename_i file _ hfile
        exact ⟨⟨file, .stylesheet⟩, by simp [Text.dropSuffix?_eq_some.1 hfile, toText]⟩
      · simp at h
    obtain ⟨w, hw⟩ := hw
    rw [← hw, ofText?_toText] at h
    split at h
    · rename_i hfile
      obtain rfl := Option.some.inj h
      exact ⟨hw.symm, hfile⟩
    · simp at h
  · rintro ⟨rfl, hv⟩
    rw [ofText?_toText, if_pos hv]

end Bundle.VirtualId

end OneFile
