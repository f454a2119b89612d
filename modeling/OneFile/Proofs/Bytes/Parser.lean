import OneFile.Proofs.Bytes.Tag
import OneFile.Proofs.Markup.Lossless

/-!
# Reading markup by bytes

A whole source, read byte by byte. The scanner has an offset instead of a place: it looks at single
bytes there, tests whether the rest of the source starts with a mark, and cuts out what it keeps.

## Main definitions

* `OneFile.Bytewise.Scanner` — the state of a parse, with an offset.
* `OneFile.Bytewise.step?` — reading one thing.
* `OneFile.Bytewise.parse?` — reading a whole source.

## Main results

* `OneFile.Bytewise.step?_eq` — a step does what it does by characters, and every cut is fine.
* `OneFile.Bytewise.parse?_eq` — so does a whole parse.

## Design

A text starts with one byte that is taken as it is, so after it the scanner may stand within a
character. It stops at ASCII bytes only, which are characters.
-/

namespace OneFile.Bytewise

open Markup Text

/-! ### Lexical rules by bytes -/

/-- No character outside ASCII comes before an ASCII character. -/
lemma not_le_of_isWide {c d : Char} (hc : IsWide c) (hd : ¬ IsWide d) : ¬ c.val ≤ d.val := by
  have hnumber : ∀ e : Char, e.toNat = e.val.toNat := fun _ => rfl
  rw [UInt32.le_iff_toNat_le, ← hnumber, ← hnumber]
  unfold IsWide at hc hd
  omega

/-- The letters are ASCII. -/
lemma isAlpha_of_isWide {c : Char} (hc : IsWide c) : c.isAlpha = false := by
  have hupper : c.isUpper = false :=
    decide_eq_false fun h => not_le_of_isWide hc (d := 'Z') (by decide) h.2
  have hz : decide (c.val ≤ 'z'.val) = false := decide_eq_false (not_le_of_isWide hc (by decide))
  show (c.isUpper || (decide (c.val ≥ 'a'.val) && decide (c.val ≤ 'z'.val))) = false
  rw [hupper, hz, Bool.and_false, Bool.or_false]

/-- The digits are ASCII. -/
lemma isDigit_of_isWide {c : Char} (hc : IsWide c) : c.isDigit = false := by
  have h9 : decide (c.val ≤ '9'.val) = false := decide_eq_false (not_le_of_isWide hc (by decide))
  show (decide (c.val ≥ '0'.val) && decide (c.val ≤ '9'.val)) = false
  rw [h9, Bool.and_false]

/-- The characters of names are ASCII. -/
lemma isNameChar_of_isWide {c : Char} (hc : IsWide c) : isNameChar c = false := by
  have halphanum : c.isAlphanum = false := by
    show (c.isAlpha || c.isDigit) = false
    rw [isAlpha_of_isWide hc, isDigit_of_isWide hc, Bool.or_false]
  simp [isNameChar, halphanum, hc.ne (d := '-') (by decide), hc.ne (d := '_') (by decide),
    hc.ne (d := ':') (by decide), hc.ne (d := '.') (by decide)]

/-- A name has as many bytes as characters. -/
lemma length_name_octets (s : Text) :
    ((octets s).takeWhile isNameChar).length = size (s.takeWhile isNameChar) :=
  length_takeWhile_octets (fun c d hc hd => by
    rw [isNameChar_of_isWide hc, isNameChar_of_isWide hd]) s

/-- Markup starts with an angle bracket. -/
lemma startsMarkup_of_ne {c : Char} (hc : c ≠ '<') (s : Text) : startsMarkup (c :: s) = false :=
  Bool.eq_false_iff.2 fun h => hc (eq_lt_of_startsMarkup h)

/-- Whether markup starts can be told from bytes. -/
lemma startsMarkup_octets (s : Text) : startsMarkup (octets s) = startsMarkup s := by
  cases s with
  | nil => rfl
  | cons c s =>
    by_cases hc : c = '<'
    · subst hc
      rw [octets_cons_of_ascii (by decide)]
      cases s with
      | nil => rfl
      | cons d s =>
        obtain ⟨e, es, heq, he⟩ := exists_octets_cons_eq d s
        rw [heq]
        show (e.isAlpha || e == '/' || e == '!') = (d.isAlpha || d == '/' || d == '!')
        by_cases hd : IsWide d
        · have hwide : IsWide e := by
            by_contra hascii
            exact hascii ((he e hascii).1 rfl ▸ hd)
          have hother : ∀ {x : Char}, IsWide x → (x.isAlpha || x == '/' || x == '!') = false := by
            intro x hx
            rw [isAlpha_of_isWide hx, beq_false_of_ne (hx.ne (by decide)),
              beq_false_of_ne (hx.ne (by decide))]
            rfl
          rw [hother hd, hother hwide]
        · rw [(he d hd).2 rfl]
    · obtain ⟨e, es, heq, he⟩ := exists_octets_cons_eq c s
      rw [heq, startsMarkup_of_ne hc, startsMarkup_of_ne fun h => hc ((he '<' (by decide)).1 h)]

/-- Whether a text ends before this character. -/
def endsText (c : Char) (s : Text) : Bool := c == '{' || startsMarkup (c :: s)

/-- No text ends before a character outside ASCII. -/
lemma endsText_of_isWide {c : Char} (hc : IsWide c) (s : Text) : endsText c s = false := by
  have hopen : c ≠ '{' := hc.ne (by decide)
  simp [endsText, hopen, startsMarkup_of_ne (hc.ne (d := '<') (by decide))]

/-- The end of a text can be told from bytes. -/
lemma goesByBytes_endsText : GoesByBytes endsText := by
  refine ⟨fun c s hc => ?_, fun c d s t hc hd => ?_⟩
  · rw [endsText, ← octets_cons_of_ascii hc, startsMarkup_octets, endsText]
  · rw [endsText_of_isWide hc, endsText_of_isWide hd]

/-! ### The scanner -/

/-- The state of a parse, with an offset instead of a place. -/
structure Scanner where
  done : List Node
  stack : List Frame
  pos : Nat

namespace Scanner

/-- The scanner after one more node. -/
def push (scanner : Scanner) (node : Node) (pos : Nat) : Scanner :=
  ⟨node :: scanner.done, scanner.stack, pos⟩

/-- What the scanner keeps of a state. -/
def of (st : State) : Scanner := ⟨st.done, st.stack, st.cursor.offset⟩

/-- A state of bytes is at the offset of its cursor. -/
@[simp] lemma pos_of (st : State) : (of st).pos = st.cursor.offset := rfl

end Scanner

/-- Whether what is left from an offset on starts with a mark. -/
def startsWith? (source : Text) (pos : Nat) (mark : Text) : Option Bool :=
  (source.slice? pos source.size).map mark.isPrefixOf

section Reading

variable (source : Text) (scanner : Scanner)

/-- Text: one byte whatever it is, and all that follows up to markup or a brace. -/
def readText? : Option (Except Error Scanner) :=
  let stop := scanner.pos + 1 + (textRun (source.octets.drop (scanner.pos + 1))).1.length
  match source.slice? scanner.pos stop with
  | none => none
  | some value => some (.ok (scanner.push (.text value ⟨scanner.pos, stop⟩) stop))

/-- A braced expression. -/
def readExpression? : Option (Except Error Scanner) :=
  match endFrom? source scanner.pos with
  | none => none
  | some none => some (.error ⟨scanner.pos, .unterminatedExpression⟩)
  | some (some stop) =>
    match source.slice? (scanner.pos + 1) (stop - 1) with
    | none => none
    | some e => some (.ok (scanner.push (.expression e ⟨scanner.pos, stop⟩) stop))

/-- A comment that starts with `opening` and ends at `closing`. -/
def readMarked? (opening closing : Text) : Option (Except Error Scanner) :=
  let start := scanner.pos + opening.size
  match source.slice? start source.size with
  | none => none
  | some rest =>
    match breakOn closing rest with
    | none => some (.error ⟨scanner.pos, .unterminatedComment⟩)
    | some (before, _) =>
      let stop := start + before.size + closing.size
      match source.slice? start (start + before.size) with
      | none => none
      | some value => some (.ok (scanner.push (.comment value ⟨scanner.pos, stop⟩) stop))

/-- A comment, of one kind or the other. -/
def readComment? : Option (Except Error Scanner) :=
  match startsWith? source scanner.pos "<!--".toList with
  | none => none
  | some true => readMarked? source scanner "<!--".toList "-->".toList
  | some false => readMarked? source scanner "<!".toList ">".toList

/-- The raw body of the element `name` that opened at `start`, from `pos` on, up to and with its
close tag; and the offset after it. -/
def readRaw? (name : Text) (start pos : Nat) : Option (Except Error (List Node × Nat)) :=
  match source.slice? pos source.size with
  | none => none
  | some rest =>
    match breakOn ("</".toList ++ name) rest with
    | none => some (.error ⟨start, .unclosedElement name⟩)
    | some (before, _) =>
      let stop := pos + before.size
      let next := skipSpaces source (stop + size ("</".toList ++ name))
      if (source.octets.drop next).head? = some '>' then
        if stop = pos then some (.ok ([], next + 1))
        else
          match source.slice? pos stop with
          | none => none
          | some body => some (.ok ([.text body ⟨pos, stop⟩], next + 1))
      else some (.error ⟨stop, .malformedClosingTag name⟩)

/-- An opening tag. Elements without a body, and those with a raw one, are read whole; any other
element stays open. -/
def openElement? : Option (Except Error Scanner) :=
  let start := scanner.pos
  let nameStop := start + 1 + ((source.octets.drop (start + 1)).takeWhile isNameChar).length
  match source.slice? (start + 1) nameStop with
  | none => none
  | some name =>
    match readAttributes? source name start [] nameStop with
    | none => none
    | some (.error e) => some (.error e)
    | some (.ok (attributes, closed, pos)) =>
      if closed || isVoid name then
        some (.ok (scanner.push (.element ⟨name, attributes, true⟩ [] ⟨start, pos⟩) pos))
      else if isRaw name then
        match readRaw? source name start pos with
        | none => none
        | some (.error e) => some (.error e)
        | some (.ok (children, stop)) =>
          some (.ok (scanner.push (.element ⟨name, attributes, false⟩ children ⟨start, stop⟩) stop))
      else some (.ok ⟨[], ⟨⟨name, attributes, false⟩, start, scanner.done⟩ :: scanner.stack, pos⟩)

/-- A close tag. -/
def closeElement? : Option (Except Error Scanner) :=
  let start := scanner.pos
  let nameStop := start + 2 + ((source.octets.drop (start + 2)).takeWhile isNameChar).length
  match source.slice? (start + 2) nameStop with
  | none => none
  | some name =>
    let next := skipSpaces source nameStop
    if (source.octets.drop next).head? = some '>' then
      match scanner.stack with
      | [] => some (.error ⟨start, .unexpectedClosingTag name⟩)
      | frame :: stack =>
        if frame.tag.name = name then
          let node := .element frame.tag scanner.done.reverse ⟨frame.start, next + 1⟩
          some (.ok ⟨node :: frame.before, stack, next + 1⟩)
        else some (.error ⟨start, .mismatchedClosingTag frame.tag.name name⟩)
    else some (.error ⟨start, .malformedClosingTag name⟩)

/-- **Reading the one thing that starts at the offset.** -/
def step? : Option (Except Error Scanner) :=
  match startsWith? source scanner.pos "</".toList with
  | none => none
  | some true => closeElement? source scanner
  | some false =>
    match startsWith? source scanner.pos "<!".toList with
    | none => none
    | some true => readComment? source scanner
    | some false =>
      if startsMarkup (source.octets.drop scanner.pos) then openElement? source scanner
      else if (source.octets.drop scanner.pos).head? = some '{' then readExpression? source scanner
      else readText? source scanner

end Reading

/-- Reading all that is left. -/
def run? (source : Text) (scanner : Scanner) : Option (Except Error (List Node)) :=
  if source.size ≤ scanner.pos then
    match scanner.stack with
    | [] => some (.ok scanner.done.reverse)
    | frame :: _ => some (.error ⟨frame.start, .unclosedElement frame.tag.name⟩)
  else
    match step? source scanner with
    | none => none
    | some (.error e) => some (.error e)
    | some (.ok next) =>
      if _h : scanner.pos < next.pos ∧ next.pos ≤ source.size then run? source next else none
termination_by source.size - scanner.pos

/-- **Reads a component source into its top-level nodes.** -/
def parse? (source : Text) : Option (Except Error Document) :=
  match run? source ⟨[], [], 0⟩ with
  | none => none
  | some (.error e) => some (.error e)
  | some (.ok nodes) => some (.ok ⟨nodes, ⟨0, source.size⟩⟩)

section Faithfulness

variable {source : Text} {st : State}

/-- What is left from a place on is tested for a mark. -/
lemma startsWith?_eq {c : Cursor} (h : c.In source) (mark : Text) :
    startsWith? source c.offset mark = some (mark.isPrefixOf c.rest) := by
  rw [startsWith?, h.slice?_rest]
  rfl

/-- **A text is read as it is by characters.** After its first byte there may be more bytes of its
first character, at which no text ends. -/
lemma readText?_eq {c : Char} {s : Text} (h : st.cursor.In source) (hs : st.cursor.rest = c :: s) :
    readText? source (.of st) = some (.ok (.of (st.readText c s))) := by
  obtain ⟨d, ds, hfirst, -, hds⟩ := exists_charOctets_eq_cons c
  have hrun : ∀ e ∈ ds, ∀ t, endsText e t = false := fun e he t =>
    endsText_of_isWide (isWide_of_isContinuation (hds e he)) t
  have hdrop : source.octets.drop (st.cursor.offset + 1) = ds ++ octets s := by
    rw [← List.drop_drop, h.drop_octets, hs, octets_cons, hfirst]
    rfl
  have hlength : (textRun (ds ++ octets s)).1.length = ds.length + (textRun s).1.size := by
    rw [textRun_eq_upTo, textRun_eq_upTo]
    show (upTo endsText _).1.length = _ + (upTo endsText s).1.size
    rw [upTo_append_of_false _ hrun, List.length_append, length_upTo_octets goesByBytes_endsText]
  have hsize : c.utf8Size = ds.length + 1 := by
    rw [← length_charOctets, hfirst, List.length_cons]
  have hread : st.cursor.Reads (c :: (textRun s).1)
      (st.cursor.advance (c :: (textRun s).1) (textRun s).2) :=
    Cursor.reads_advance (by rw [hs, List.cons_append, textRun_append])
  have hstop : st.cursor.offset + 1 + (ds.length + (textRun s).1.size) =
      (st.cursor.advance (c :: (textRun s).1) (textRun s).2).offset := by
    rw [hread.offset_eq, size_cons]
    omega
  simp only [readText?, Scanner.of, hdrop, hlength, hstop, h.slice? hread]
  rfl

/-- **An expression is read as it is by characters.** -/
lemma readExpression?_eq {s : Text} (h : st.cursor.In source) (hs : st.cursor.rest = '{' :: s) :
    readExpression? source (.of st) = some (st.readExpression.map .of) := by
  have hend := endFrom?_of_in h hs
  unfold readExpression? State.readExpression
  simp only [Scanner.of]
  rw [hend, hs]
  cases hinside : Brace.inside? ('{' :: s) with
  | none => rfl
  | some found =>
    obtain ⟨expression, after⟩ := found
    have hslice := slice?_expression h (hs.trans (Brace.inside?_eq_some hinside))
    dsimp only [Option.map_some]
    rw [hslice]
    rfl

/-- **A comment is read as it is by characters.** -/
lemma readMarked?_eq (opening closing body : Text) (h : st.cursor.In source)
    (hs : st.cursor.rest = opening ++ body) :
    readMarked? source (.of st) opening closing =
      some ((st.readComment opening closing body).map .of) := by
  have hbody : Cursor.In source ⟨body, st.cursor.offset + opening.size⟩ := h.of_reads ⟨hs, rfl⟩
  have hrest : source.slice? (st.cursor.offset + opening.size) source.size = some body :=
    hbody.slice?_rest
  unfold readMarked? State.readComment
  simp only [Scanner.of]
  rw [hrest]
  dsimp only
  cases hfind : breakOn closing body with
  | none => rfl
  | some found =>
    obtain ⟨value, after⟩ := found
    have hread : Cursor.Reads ⟨body, st.cursor.offset + opening.size⟩ value
        ⟨closing ++ after, st.cursor.offset + opening.size + value.size⟩ :=
      ⟨by simp [breakOn_eq_some hfind], rfl⟩
    have hvalue : source.slice? (st.cursor.offset + opening.size)
        (st.cursor.offset + opening.size + value.size) = some value := hbody.slice? hread
    dsimp only
    rw [hvalue]
    rfl

/-- **A raw body is read as it is by characters.** -/
lemma readRaw?_eq {c : Cursor} (h : c.In source) (name : Text) (start : Nat) :
    readRaw? source name start c.offset = some ((State.readRaw name start c).map atOffset) := by
  unfold readRaw? State.readRaw
  rw [h.slice?_rest]
  dsimp only
  cases hfind : breakOn ("</".toList ++ name) c.rest with
  | none => rfl
  | some found =>
    obtain ⟨body, after⟩ := found
    have hsplit := breakOn_eq_some hfind
    have hbody : c.Reads body ⟨"</".toList ++ name ++ after, c.offset + body.size⟩ :=
      ⟨by rw [hsplit, List.append_assoc], rfl⟩
    have hclose : Cursor.In source ⟨after, c.offset + body.size + 2 + name.size⟩ :=
      (h.of_reads hbody).of_reads ⟨rfl, by rw [size_append]; exact Nat.add_assoc ..⟩
    have hnext := skipSpaces_eq hclose
    have hmark : c.offset + body.size + size ("</".toList ++ name) =
        c.offset + body.size + 2 + name.size := by
      rw [size_append]
      exact (Nat.add_assoc ..).symm
    have hslice : source.slice? c.offset (c.offset + body.size) = some body := h.slice? hbody
    dsimp only at hnext ⊢
    rw [hmark, hnext, (in_skipSpaces hclose).drop_octets, hslice]
    generalize Cursor.skipSpaces ⟨after, c.offset + body.size + 2 + name.size⟩ = c'
    by_cases hend : ∃ s, c'.rest = '>' :: s
    · rw [if_pos ((head?_octets_iff_exists (by decide)).2 hend)]
      obtain ⟨s, hs⟩ := hend
      rw [hs]
      cases body with
      | nil => simp [Except.map, atOffset]
      | cons d body =>
        have hpos : 0 < size (d :: body) := size_pos (List.cons_ne_nil _ _)
        rw [if_neg (by omega)]
        rfl
    · rw [if_neg fun h => hend ((head?_octets_iff_exists (by decide)).1 h)]
      split
      · rename_i s hs
        exact absurd ⟨s, hs⟩ hend
      · rfl

/-- The name at the start of a tag is cut out of the source, and the place after it is in it. -/
lemma name_of_in {s : Text} {offset : Nat} (h : Cursor.In source ⟨s, offset⟩) :
    offset + ((source.octets.drop offset).takeWhile isNameChar).length =
        offset + size (s.takeWhile isNameChar) ∧
      source.slice? offset (offset + size (s.takeWhile isNameChar)) =
        some (s.takeWhile isNameChar) ∧
      Cursor.In source ⟨s.dropWhile isNameChar, offset + size (s.takeWhile isNameChar)⟩ := by
  have hread : Cursor.Reads ⟨s, offset⟩ (s.takeWhile isNameChar)
      ⟨s.dropWhile isNameChar, offset + size (s.takeWhile isNameChar)⟩ :=
    Cursor.reads_skipWhile isNameChar ⟨s, offset⟩
  have hdrop : source.octets.drop offset = octets s := h.drop_octets
  exact ⟨by rw [hdrop, length_name_octets], h.slice? hread, h.of_reads hread⟩

/-- **An opening tag is read as it is by characters**, with a raw body if it has one. -/
lemma openElement?_eq {s : Text} (h : st.cursor.In source) (hs : st.cursor.rest = '<' :: s) :
    openElement? source (.of st) = some ((st.openElement s).map .of) := by
  obtain ⟨hstop, hname, hafter⟩ := name_of_in (in_tail h hs (by decide))
  have hattributes := readAttributes?_eq hafter (s.takeWhile isNameChar) st.cursor.offset []
  unfold openElement? State.openElement
  simp only [Scanner.of] at hstop hname hattributes ⊢
  rw [hstop, hname]
  dsimp only
  rw [hattributes]
  generalize s.takeWhile isNameChar = name at hafter ⊢
  cases hread : Tag.readAttributes name st.cursor.offset []
      ⟨s.dropWhile isNameChar, st.cursor.offset + 1 + size name⟩ with
  | error e => rfl
  | ok found =>
    obtain ⟨attributes, closed, c⟩ := found
    obtain ⟨-, piece, -, hpiece, -⟩ := Tag.readAttributes_stand hafter hread
    have hraw := readRaw?_eq (hafter.of_reads hpiece) name st.cursor.offset
    simp only [Except.map, tagAtOffset]
    split_ifs with hvoid
    · rfl
    · rw [hraw]
      cases State.readRaw name st.cursor.offset c <;> rfl
    · rfl

/-- **A close tag is read as it is by characters.** -/
lemma closeElement?_eq {s : Text} (h : st.cursor.In source)
    (hs : st.cursor.rest = '<' :: '/' :: s) :
    closeElement? source (.of st) = some ((st.closeElement s).map .of) := by
  have htail : Cursor.In source ⟨s, st.cursor.offset + 2⟩ :=
    in_tail (in_tail h hs (by decide)) rfl (by decide)
  obtain ⟨hstop, hname, hafter⟩ := name_of_in htail
  have hnext := skipSpaces_eq hafter
  unfold closeElement? State.closeElement
  simp only [Scanner.of, hstop, hname, hnext, (in_skipSpaces hafter).drop_octets]
  generalize s.takeWhile isNameChar = name
  generalize Cursor.skipSpaces ⟨s.dropWhile isNameChar, st.cursor.offset + 2 + size name⟩ = c
  by_cases hend : ∃ t, c.rest = '>' :: t
  · rw [if_pos ((head?_octets_iff_exists (by decide)).2 hend)]
    obtain ⟨t, ht⟩ := hend
    rw [ht]
    cases st.stack with
    | nil => rfl
    | cons frame stack =>
      dsimp only
      split_ifs <;> rfl
  · rw [if_neg fun h => hend ((head?_octets_iff_exists (by decide)).1 h)]
    split
    · rename_i t ht
      exact absurd ⟨t, ht⟩ hend
    · rfl

/-- What a step reads is told from what is left. -/
lemma step?_of_in (h : st.cursor.In source) : step? source (.of st) =
    if "</".toList.isPrefixOf st.cursor.rest then closeElement? source (.of st)
    else if "<!".toList.isPrefixOf st.cursor.rest then
      if "<!--".toList.isPrefixOf st.cursor.rest then
        readMarked? source (.of st) "<!--".toList "-->".toList
      else readMarked? source (.of st) "<!".toList ">".toList
    else if startsMarkup st.cursor.rest then openElement? source (.of st)
    else if st.cursor.rest.head? = some '{' then readExpression? source (.of st)
    else readText? source (.of st) := by
  have hmark : ∀ mark, startsWith? source st.cursor.offset mark =
      some (mark.isPrefixOf st.cursor.rest) := startsWith?_eq h
  simp only [step?, readComment?, Scanner.of, hmark, h.drop_octets, startsMarkup_octets,
    head?_octets_eq_some_iff (d := '{') (by decide)]
  cases "</".toList.isPrefixOf st.cursor.rest <;> cases "<!".toList.isPrefixOf st.cursor.rest <;>
    cases "<!--".toList.isPrefixOf st.cursor.rest <;> rfl

/-- A text that starts with nothing after a mark does not start with the mark. -/
lemma isPrefixOf_eq_false {mark s : Text} (h : ∀ t, s = mark ++ t → False) :
    mark.isPrefixOf s = false :=
  Bool.eq_false_iff.2 fun hmark =>
    let ⟨t, ht⟩ := List.isPrefixOf_iff_prefix.1 hmark
    h t ht.symm

/-- **A step does what it does by characters**, and every cut is fine.

**Proof sketch.** The marks that the step looks for are ASCII, so what it reads is told from the
bytes as from the characters. -/
theorem step?_eq (h : st.cursor.In source) (hne : st.cursor.rest ≠ []) :
    step? source (.of st) = some (st.step.map .of) := by
  have hstep := step?_of_in h
  unfold State.step
  split
  · contradiction
  · rename_i s hs
    rw [hstep, closeElement?_eq h hs, hs]
    rfl
  · rename_i s hs
    have hcomment := readMarked?_eq "<!--".toList "-->".toList s h hs
    rw [hstep, hcomment, hs]
    rfl
  · rename_i s hdash hs
    have hshort : "<!--".toList.isPrefixOf st.cursor.rest = false :=
      isPrefixOf_eq_false fun t ht => hdash t (by simpa [hs] using ht)
    have hcomment := readMarked?_eq "<!".toList ">".toList s h hs
    rw [hstep, hcomment, hshort, hs]
    rfl
  · rename_i s hs
    rw [hstep, readExpression?_eq h hs, hs]
    rfl
  · rename_i c s hclose hdash hbang hbrace hs
    have hnotClose : "</".toList.isPrefixOf st.cursor.rest = false :=
      isPrefixOf_eq_false fun t ht => by
        rw [hs] at ht
        cases ht
        exact hclose t rfl rfl
    have hnotBang : "<!".toList.isPrefixOf st.cursor.rest = false :=
      isPrefixOf_eq_false fun t ht => by
        rw [hs] at ht
        cases ht
        exact hbang t rfl rfl
    have hnotBrace : ¬ st.cursor.rest.head? = some '{' := by
      simpa [hs] using hbrace
    simp only [hstep, hnotClose, hnotBang, hnotBrace, Bool.false_eq_true, if_false]
    rw [hs]
    split_ifs with hmarkup
    · obtain rfl := eq_lt_of_startsMarkup hmarkup
      exact openElement?_eq h hs
    · exact readText?_eq h hs

/-! ### The whole source -/

/-- **From a faithful state on the parse goes as the one by characters**, and every cut is fine.

**Proof sketch.** Induction along the steps. Each one leads further on within the source. -/
theorem run?_eq (h : st.Faithful source) : run? source (.of st) = some st.run := by
  have hsize := h.cursor_in.offset_add_size
  fun_induction State.run st with
  | case1 st hrest hstack =>
    rw [hrest, size_nil] at hsize
    have hend : source.size ≤ (Scanner.of st).pos := hsize.ge
    rw [run?, if_pos hend]
    simp only [Scanner.of, hstack]
  | case2 st hrest frame stack hstack =>
    rw [hrest, size_nil] at hsize
    have hend : source.size ≤ (Scanner.of st).pos := hsize.ge
    rw [run?, if_pos hend]
    simp only [Scanner.of, hstack]
  | case3 st hrest e hstep =>
    have hpos := size_pos hrest
    have hwithin : ¬ source.size ≤ (Scanner.of st).pos := by rw [Scanner.pos_of]; omega
    rw [run?, if_neg hwithin, step?_eq h.cursor_in hrest, hstep]
    rfl
  | case4 st hrest st' hstep ih =>
    have hpos := size_pos hrest
    have hwithin : ¬ source.size ≤ (Scanner.of st).pos := by rw [Scanner.pos_of]; omega
    have hst' := h.step hstep
    have hsize' := hst'.cursor_in.offset_add_size
    have hshorter := State.step_shorter hrest hstep
    obtain ⟨piece, hpiece⟩ := h.cursor_in.before_of_length_le hst'.cursor_in hshorter.le
    have hfurther := hpiece.offset_lt hshorter
    have hguard : (Scanner.of st).pos < (Scanner.of st').pos ∧
        (Scanner.of st').pos ≤ source.size := ⟨hfurther, by rw [Scanner.pos_of]; omega⟩
    rw [run?, if_neg hwithin, step?_eq h.cursor_in hrest, hstep]
    simp only [Except.map]
    rw [dif_pos hguard]
    exact ih hst' hsize'

end Faithfulness

/-- **Every source is parsed as it is by characters**, and every cut on the way is fine. -/
theorem parse?_eq (source : Text) : parse? source = some (parse source) := by
  have hrun : run? source ⟨[], [], 0⟩ = some (State.run ⟨[], [], ⟨source, 0⟩⟩) :=
    run?_eq (State.faithful_start source)
  rw [parse?, parse, hrun]
  cases State.run ⟨[], [], ⟨source, 0⟩⟩ <;> rfl

end OneFile.Bytewise
