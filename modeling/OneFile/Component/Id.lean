import OneFile.Text.Basic
import OneFile.Digest.Sha256

/-!
# Component ids

A component's id tells its scope from those of all others. The caller may give one; otherwise it
is drawn at random, or taken from the source text so that equal sources share it.

## Main definitions

* `OneFile.IdStrategy`
* `OneFile.contentId` — the id of a source text.
* `OneFile.randomId` — the id for a random word.
* `OneFile.resolveId`

## Main results

* `OneFile.length_contentId` — an id has eight digits.
-/

namespace OneFile

/-- How an id is chosen when none is given. -/
inductive IdStrategy where
  | random
  | contentHash
deriving DecidableEq, Repr, Inhabited

/-- The first eight hexadecimal digits of the source's SHA-256 digest. -/
def contentId (source : Text) : Text := (Digest.hex (Digest.sha256 source.bytes)).take 8

/-- The eight hexadecimal digits of a random word. -/
def randomId (word : UInt32) : Text := Digest.hex (Digest.Sha256.wordBytes word)

/-- The given id if there is one; otherwise what the strategy says, where `fresh` is an id drawn
at random. -/
def resolveId (explicit : Option Text) (strategy : IdStrategy) (fresh source : Text) : Text :=
  match explicit, strategy with
  | some id, _ => id
  | none, .random => fresh
  | none, .contentHash => contentId source

/-- A byte takes two hexadecimal digits. -/
theorem length_hex (bytes : List UInt8) : (Digest.hex bytes).length = 2 * bytes.length := by
  induction bytes with
  | nil => rfl
  | cons b bytes ih =>
    simp only [Digest.hex, List.flatMap_cons, List.length_append] at ih ⊢
    simp only [ih, List.length_cons, List.length_nil]
    omega

/-- An id has eight digits. -/
theorem length_contentId (source : Text) : (contentId source).length = 8 := by
  simp [contentId, length_hex, Digest.length_sha256]

/-- A random id has eight characters. -/
theorem length_randomId (word : UInt32) : (randomId word).length = 8 := by
  simp [randomId, length_hex, Digest.Sha256.wordBytes]

end OneFile
