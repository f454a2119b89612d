import OneFile.Proofs.Bytes.Brace
import OneFile.Proofs.Markup.Locality

/-!
# Reading an opening tag by bytes

Attributes and their values, read byte by byte: the scanner advances over single bytes, and cuts out
names, values and expressions by the offsets it has come to.

## Main definitions

* `OneFile.Bytewise.skipSpaces` — the offset after blanks.
* `OneFile.Bytewise.valueParts?` — a quoted value as literal stretches and expressions.
* `OneFile.Bytewise.readValue?`, `OneFile.Bytewise.readAttribute?`,
  `OneFile.Bytewise.readAttributes?` — a value, an attribute and all attributes of a tag.

## Main results

* `OneFile.Bytewise.valueParts?_eq`, `OneFile.Bytewise.readAttribute?_eq`,
  `OneFile.Bytewise.readAttributes?_eq` — what is read is what is read by characters, and every cut
  is fine.

## Design

A loop gives `none` not only where a cut fails but also where a round of it would not lead further
on within the source, so that it is seen to end. That there is no such round is part of the results.
-/

namespace OneFile.Bytewise

open Markup Text

/-! ### Lexical rules by bytes -/

/-- Blanks are ASCII. -/
lemma isSpace_of_isWide {c : Char} (hc : IsWide c) : isSpace c = false := by
  simp [isSpace, hc.ne (d := ' ') (by decide), hc.ne (d := '\t') (by decide),
    hc.ne (d := '\n') (by decide), hc.ne (d := '\x0c') (by decide), hc.ne (d := '\r') (by decide)]

/-- The end of an attribute name can be told from bytes. -/
lemma goesByBytes_endsName : GoesByBytes endsName := by
  have hwide : ∀ c s, IsWide c → endsName c s = false := by
    intro c s hc
    have hne : ∀ d : Char, ¬ IsWide d → c ≠ d := fun d hd => hc.ne hd
    simp [endsName, isSpace_of_isWide hc, hne '=' (by decide), hne '>' (by decide),
      hne '"' (by decide), hne '\'' (by decide), hne '{' (by decide), hne '<' (by decide),
      hne '/' (by decide)]
  refine ⟨fun c s _ => ?_, fun c d s t hc hd => by rw [hwide c s hc, hwide d t hd]⟩
  simp only [endsName, beq_eq_decide, head?_octets_eq_some_iff (d := '>') (by decide)]

/-- The end of a bare value can be told from bytes. -/
lemma goesByBytes_endsValue : GoesByBytes endsValue := by
  have hwide : ∀ c s, IsWide c → endsValue c s = false := by
    intro c s hc
    simp [endsValue, isSpace_of_isWide hc, hc.ne (d := '>') (by decide),
      hc.ne (d := '/') (by decide)]
  refine ⟨fun c s _ => ?_, fun c d s t hc hd => by rw [hwide c s hc, hwide d t hd]⟩
  simp only [endsValue, beq_eq_decide, head?_octets_eq_some_iff (d := '>') (by decide)]

/-- The offset after blanks. -/
def skipSpaces (source : Text) (pos : Nat) : Nat :=
  pos + ((source.octets.drop pos).takeWhile isSpace).length

/-- Blanks are skipped as they are by characters. -/
lemma skipSpaces_eq {source : Text} {c : Cursor} (h : c.In source) :
    skipSpaces source c.offset = c.skipSpaces.offset := by
  have hwide : ∀ c d, IsWide c → IsWide d → isSpace c = isSpace d := fun c d hc hd => by
    rw [isSpace_of_isWide hc, isSpace_of_isWide hd]
  rw [skipSpaces, h.drop_octets, length_takeWhile_octets hwide]
  rfl

/-- The place after blanks is a place in the source, too. -/
lemma in_skipSpaces {source : Text} {c : Cursor} (h : c.In source) : c.skipSpaces.In source :=
  h.of_reads c.exists_reads_skipSpaces.choose_spec.2

/-- The place after an ASCII character is a place in the source, too. -/
lemma in_tail {source s : Text} {c : Cursor} {d : Char} (h : c.In source) (hs : c.rest = d :: s)
    (hd : ¬ IsWide d) : Cursor.In source ⟨s, c.offset + 1⟩ :=
  h.of_reads ⟨hs, by rw [size_cons, size_nil, utf8Size_of_ascii hd]⟩

/-! ### Expressions -/

/-- The end of an expression, found from its first brace on. -/
lemma endFrom?_of_in {source s : Text} {c : Cursor} (h : c.In source) (hs : c.rest = '{' :: s) :
    endFrom? source c.offset =
      some ((Brace.inside? c.rest).map fun found => c.offset + found.1.size + 2) := by
  have hsize := h.offset_add_size
  obtain ⟨before, hsource, hoffset⟩ := h
  rw [endFrom?_eq, Brace.endFrom?, ← hoffset, hsource, dropBytes_size_append, ← hsource]
  cases hinside : Brace.inside? c.rest with
  | none =>
    have hnone : Brace.afterClosing? .initial c.rest = none := by
      simpa [Brace.inside?, Brace.balanced?] using hinside
    rw [hnone]
    rfl
  | some found =>
    obtain ⟨e, after⟩ := found
    have hscan := (Brace.inside?_eq_some_iff.1 hinside).1
    rw [hs] at hinside
    have hrest := congrArg size (Brace.inside?_eq_some hinside)
    rw [← hs, size_append, Brace.size_braced] at hrest
    rw [hscan, Option.map_some, Option.map_some]
    congr 2
    dsimp only
    omega

/-- What stands between the braces of an expression is cut out of the source. -/
lemma slice?_expression {source e after : Text} {c : Cursor} (h : c.In source)
    (hs : c.rest = braced e ++ after) :
    source.slice? (c.offset + 1) (c.offset + e.size + 2 - 1) = some e := by
  have hopen : c.rest = '{' :: (e ++ '}' :: after) := by
    rw [hs]
    simp [braced]
  have hinner : Cursor.In source ⟨e ++ '}' :: after, c.offset + 1⟩ := in_tail h hopen (by decide)
  have hread : Cursor.Reads ⟨e ++ '}' :: after, c.offset + 1⟩ e
      ⟨'}' :: after, c.offset + e.size + 2 - 1⟩ := ⟨rfl, by dsimp only; omega⟩
  exact hinner.slice? hread

/-! ### Quoted values -/

/-- The stretches of a quoted value, after what is left from `start` on. -/
def lastPart? (value : Text) (start : Nat) (parts : List ValuePart) : Option (List ValuePart) :=
  if start < value.size ∨ parts = [] then
    (value.slice? start value.size).map fun t => parts ++ [.text t]
  else some parts

/-- The stretch before an expression, unless it is empty. -/
def literalPart? (value : Text) (start stop : Nat) : Option (List ValuePart) :=
  if start < stop then (value.slice? start stop).map fun t => [.text t] else some []

/-- **The stretches of a quoted value** from `start` on, after those already found. -/
def valuePartsFrom? (value : Text) (start : Nat) (parts : List ValuePart) :
    Option (List ValuePart) :=
  match value.slice? start value.size with
  | none => none
  | some rest =>
    match breakOn ['{'] rest with
    | none => lastPart? value start parts
    | some (before, _) =>
      match endFrom? value (start + before.size) with
      | none => none
      | some none => lastPart? value start parts
      | some (some stop) =>
        match literalPart? value start (start + before.size),
            value.slice? (start + before.size + 1) (stop - 1) with
        | some literal, some source =>
          if _h : start < stop ∧ stop ≤ value.size then
            valuePartsFrom? value stop (parts ++ literal ++ [.expression source])
          else none
        | _, _ => none
termination_by value.size - start

/-- A quoted value as literal stretches and expressions. -/
def valueParts? (value : Text) : Option (List ValuePart) := valuePartsFrom? value 0 []

/-- **Where a character is found**: after those that differ from it, if there is one. -/
lemma breakOn_singleton_cases (d : Char) (s : Text) :
    breakOn [d] s = none ∧ s.dropWhile (· != d) = [] ∨
      ∃ after, breakOn [d] s = some (s.takeWhile (· != d), after) ∧
        s.dropWhile (· != d) = d :: after := by
  induction s with
  | nil => exact .inl ⟨rfl, rfl⟩
  | cons c s ih =>
    by_cases hc : c = d
    · subst hc
      exact .inr ⟨s, by simp [breakOn], by simp⟩
    · have hne : (c != d) = true := bne_iff_ne.2 hc
      have hstart : ¬ [d] <+: c :: s := fun h => hc (List.cons_prefix_cons.1 h).1.symm
      simp only [breakOn, hstart, List.dropWhile_cons, List.takeWhile_cons, hne, if_true, if_false]
      rcases ih with ⟨hfind, hdrop⟩ | ⟨after, hfind, hdrop⟩
      · exact .inl ⟨by rw [hfind]; rfl, hdrop⟩
      · exact .inr ⟨after, by rw [hfind]; rfl, hdrop⟩

/-- A list of stretches, or one empty stretch if there are none. -/
def orEmptyPart : List ValuePart → List ValuePart
  | [] => [.text []]
  | part :: parts => part :: parts

/-- What is left of a value is its last stretch. -/
lemma lastPart?_eq {value rest : Text} {start : Nat} (parts : List ValuePart)
    (h : Cursor.In value ⟨rest, start⟩) :
    lastPart? value start parts = some (orEmptyPart (parts ++ literalPart rest)) := by
  have hsize : start + rest.size = value.size := h.offset_add_size
  have hslice : value.slice? start value.size = some rest := h.slice?_rest
  unfold lastPart? literalPart
  rw [hslice]
  cases rest with
  | nil =>
    rw [size_nil] at hsize
    cases parts with
    | nil => simp [orEmptyPart]
    | cons part parts => simp [orEmptyPart, ← hsize]
  | cons c rest =>
    have hpos : 0 < size (c :: rest) := size_pos (List.cons_ne_nil _ _)
    have hlt : start < value.size := by omega
    cases parts <;> simp [orEmptyPart, hlt]

/-- The stretch before a brace is cut out of a value. -/
lemma literalPart?_eq {value before after : Text} {start : Nat}
    (h : Cursor.In value ⟨before ++ after, start⟩) :
    literalPart? value start (start + before.size) = some (literalPart before) := by
  have hread : Cursor.Reads ⟨before ++ after, start⟩ before ⟨after, start + before.size⟩ :=
    ⟨rfl, rfl⟩
  have hslice : value.slice? start (start + before.size) = some before := h.slice? hread
  unfold literalPart? literalPart
  rw [hslice]
  cases before with
  | nil => simp
  | cons c before =>
    have hpos : 0 < size (c :: before) := size_pos (List.cons_ne_nil _ _)
    rw [if_pos (by omega)]
    rfl

/-- **The stretches of a value are what they are by characters**, and every cut is fine.

**Proof sketch.** Induction along the stretches: what is left of the value is searched for a brace,
and the scan from there finds the end of the expression as the one by characters does. -/
lemma valuePartsFrom?_eq {value rest : Text} {start : Nat} (parts : List ValuePart)
    (h : Cursor.In value ⟨rest, start⟩) :
    valuePartsFrom? value start parts = some (orEmptyPart (parts ++ valuePartsFrom rest)) := by
  fun_induction valuePartsFrom rest generalizing start parts with
  | case1 rest hnone =>
    have hslice : value.slice? start value.size = some rest := h.slice?_rest
    have hlast := lastPart?_eq parts h
    rw [valuePartsFrom?, hslice]
    dsimp only
    rcases breakOn_singleton_cases '{' rest with ⟨hfind, -⟩ | ⟨after, hfind, hdrop⟩
    · rw [hfind]
      exact hlast
    · have hbrace : Cursor.In value ⟨'{' :: after, start + size (rest.takeWhile (· != '{'))⟩ :=
        h.of_reads ⟨by rw [← hdrop, List.takeWhile_append_dropWhile], rfl⟩
      have hend := endFrom?_of_in hbrace rfl
      rw [hdrop] at hnone
      rw [hnone] at hend
      rw [hfind]
      dsimp only
      rw [hend]
      exact hlast
  | case2 rest source after hsome ih =>
    have hslice : value.slice? start value.size = some rest := h.slice?_rest
    rcases breakOn_singleton_cases '{' rest with ⟨-, hdrop⟩ | ⟨tail, hfind, hdrop⟩
    · rw [hdrop] at hsome
      cases hsome
    · have hrest : rest = rest.takeWhile (· != '{') ++ '{' :: tail := by
        rw [← hdrop, List.takeWhile_append_dropWhile]
      rw [hdrop] at hsome
      obtain ⟨before, hbefore⟩ : ∃ before : Text, rest.takeWhile (· != '{') = before := ⟨_, rfl⟩
      rw [hbefore] at hfind hrest ⊢
      have hbraced := Brace.inside?_eq_some hsome
      have hin : Cursor.In value ⟨before ++ '{' :: tail, start⟩ := hrest ▸ h
      have hbrace : Cursor.In value ⟨'{' :: tail, start + before.size⟩ := hin.of_reads ⟨rfl, rfl⟩
      have hend := endFrom?_of_in hbrace rfl
      rw [hsome] at hend
      have hafter : Cursor.In value ⟨after, start + before.size + source.size + 2⟩ :=
        hbrace.of_reads ⟨hbraced, by rw [Brace.size_braced, Nat.add_assoc]⟩
      have hwithin : start + before.size + source.size + 2 + after.size = value.size :=
        hafter.offset_add_size
      rw [valuePartsFrom?, hslice]
      dsimp only
      rw [hfind]
      dsimp only
      rw [hend]
      dsimp only [Option.map_some]
      rw [literalPart?_eq hin, slice?_expression hbrace hbraced]
      dsimp only
      rw [dif_pos (by omega), ih _ hafter]
      simp

/-- **A quoted value has the stretches that it has by characters**, and every cut is fine. -/
theorem valueParts?_eq (value : Text) : valueParts? value = some (valueParts value) := by
  have hstart : Cursor.In value ⟨value, 0⟩ := ⟨[], rfl, rfl⟩
  rw [valueParts?, valuePartsFrom?_eq [] hstart, List.nil_append, valueParts]
  cases valuePartsFrom value <;> rfl

/-! ### One attribute -/

/-- A value after an equals sign and the blanks around it, and the offset after it; for the
attribute `name` that starts at `start`. -/
def readValue? (source name : Text) (start pos : Nat) :
    Option (Except Error (AttributeValue × Nat)) :=
  match source.octets.drop pos with
  | [] => some (.error ⟨start, .missingValue name⟩)
  | d :: _ =>
    if d = '"' ∨ d = '\'' then
      match source.slice? (pos + 1) source.size with
      | none => none
      | some rest =>
        match breakOn [d] rest with
        | none => some (.error ⟨start, .unterminatedValue name⟩)
        | some (before, _) => do
          let value ← source.slice? (pos + 1) (pos + 1 + before.size)
          let parts ← valueParts? value
          some (.ok (.text parts, pos + 1 + before.size + 1))
    else if d = '{' then
      match endFrom? source pos with
      | none => none
      | some none => some (.error ⟨pos, .unterminatedExpression⟩)
      | some (some stop) => do
        let e ← source.slice? (pos + 1) (stop - 1)
        some (.ok (.expression e, stop))
    else do
      let stop := pos + (bareValue (source.octets.drop pos)).1.length
      let value ← source.slice? pos stop
      some (.ok (.text [.text value], stop))

/-- One attribute of an element `tag`, and the offset after it. -/
def readAttribute? (source tag : Text) (pos : Nat) : Option (Except Error (Attribute × Nat)) :=
  let stop := pos + (attributeName (source.octets.drop pos)).1.length
  if stop = pos then some (.error ⟨pos, .unexpectedCharacter tag⟩)
  else
    match source.slice? pos stop with
    | none => none
    | some name =>
      if (source.octets.drop (skipSpaces source stop)).head? = some '=' then
        match readValue? source name pos (skipSpaces source (skipSpaces source stop + 1)) with
        | none => none
        | some (.error e) => some (.error e)
        | some (.ok (value, stop)) => some (.ok (⟨name, value, ⟨pos, stop⟩⟩, stop))
      else some (.ok (⟨name, .empty, ⟨pos, stop⟩⟩, stop))

/-- What was read, with the offset of the place after it instead of the place. -/
def atOffset {α : Type} (found : α × Cursor) : α × Nat := (found.1, found.2.offset)

/-- **A value is read as it is by characters**, and every cut is fine. -/
theorem readValue?_eq {source : Text} {c : Cursor} (h : c.In source) (name : Text) (start : Nat) :
    readValue? source name start c.offset =
      some ((AttributeValue.read name start c).map atOffset) := by
  unfold readValue? AttributeValue.read
  rw [h.drop_octets]
  cases hs : c.rest with
  | nil => rfl
  | cons d s =>
    obtain ⟨e, es, hoctets, he⟩ := exists_octets_cons_eq d s
    rw [hoctets]
    dsimp only
    by_cases hquote : d = '"' ∨ d = '\''
    · have hascii : ¬ IsWide d := by rcases hquote with rfl | rfl <;> decide
      obtain rfl : e = d := (he d hascii).2 rfl
      have htail : Cursor.In source ⟨s, c.offset + 1⟩ := in_tail h hs hascii
      have hrest : source.slice? (c.offset + 1) source.size = some s := htail.slice?_rest
      rw [if_pos hquote, if_pos hquote, hrest]
      dsimp only
      cases hfind : breakOn [e] s with
      | none => rfl
      | some found =>
        obtain ⟨value, after⟩ := found
        have hread : Cursor.Reads ⟨s, c.offset + 1⟩ value
            ⟨e :: after, c.offset + 1 + value.size⟩ := ⟨by simp [breakOn_eq_some hfind], rfl⟩
        have hvalue : source.slice? (c.offset + 1) (c.offset + 1 + value.size) = some value :=
          htail.slice? hread
        have hstop : (c.advance (e :: value ++ [e]) after).offset =
            c.offset + 1 + value.size + 1 := by
          simp [Cursor.advance, utf8Size_of_ascii hascii]
          omega
        simp only [hvalue, valueParts?_eq, Option.bind_eq_bind, Option.bind_some, Except.map,
          atOffset, hstop]
    have hquote' : ¬ (e = '"' ∨ e = '\'') := by
      rwa [he '"' (by decide), he '\'' (by decide)]
    rw [if_neg hquote, if_neg hquote']
    by_cases hbrace : d = '{'
    · subst hbrace
      obtain rfl : e = '{' := (he '{' (by decide)).2 rfl
      rw [if_pos rfl, if_pos rfl, endFrom?_of_in h hs, hs]
      cases hinside : Brace.inside? ('{' :: s) with
      | none => rfl
      | some found =>
        obtain ⟨expression, after⟩ := found
        have hslice := slice?_expression h (hs.trans (Brace.inside?_eq_some hinside))
        dsimp only [Option.map_some]
        rw [hslice]
        rfl
    · have hbrace' : ¬ e = '{' := by rwa [he '{' (by decide)]
      have hlength : (bareValue (e :: es)).1.length = (bareValue (d :: s)).1.size := by
        rw [← hoctets, bareValue_eq_upTo, bareValue_eq_upTo,
          length_upTo_octets goesByBytes_endsValue]
      have hslice : source.slice? c.offset (c.offset + (bareValue (d :: s)).1.size) =
          some (bareValue (d :: s)).1 :=
        h.slice? (Cursor.reads_advance (hs.trans (bareValue_append (d :: s)).symm))
      rw [if_neg hbrace, if_neg hbrace', hlength, hslice]
      rfl

/-- **An attribute is read as it is by characters**, and every cut is fine. -/
theorem readAttribute?_eq {source : Text} {c : Cursor} (h : c.In source) (tag : Text) :
    readAttribute? source tag c.offset = some ((Attribute.read tag c).map atOffset) := by
  have hname : c.Reads (attributeName c.rest).1
      (c.advance (attributeName c.rest).1 (attributeName c.rest).2) :=
    Cursor.reads_advance (attributeName_append c.rest).symm
  have hlength : (attributeName (octets c.rest)).1.length = (attributeName c.rest).1.size := by
    rw [attributeName_eq_upTo, attributeName_eq_upTo, length_upTo_octets goesByBytes_endsName]
  unfold readAttribute? Attribute.read
  rw [h.drop_octets, hlength]
  generalize (attributeName c.rest).1 = name at hname ⊢
  generalize (attributeName c.rest).2 = rest at hname ⊢
  generalize hafter : c.advance name rest = c₁ at hname ⊢
  have hstop : c.offset + name.size = c₁.offset := hname.offset_eq.symm
  have hc₁ : c₁.In source := h.of_reads hname
  have hspaces : c₁.skipSpaces.In source := in_skipSpaces hc₁
  dsimp only
  rw [hstop, h.slice? hname, skipSpaces_eq hc₁, hspaces.drop_octets, hafter]
  by_cases hempty : name = []
  · subst hempty
    have hsame : c₁.offset = c.offset := hstop.symm
    rw [if_pos hsame, List.isEmpty_nil, if_pos rfl]
    rfl
  have hpos : 0 < name.size := size_pos hempty
  rw [if_neg (by omega), if_neg (by simpa using hempty)]
  dsimp only
  by_cases hequals : ∃ s, c₁.skipSpaces.rest = '=' :: s
  · rw [if_pos ((head?_octets_iff_exists (by decide)).2 hequals)]
    obtain ⟨s, hs⟩ := hequals
    have htail : Cursor.In source ⟨s, c₁.skipSpaces.offset + 1⟩ := in_tail hspaces hs (by decide)
    have hvalue := readValue?_eq (in_skipSpaces htail) name c.offset
    rw [← skipSpaces_eq htail] at hvalue
    simp only [hvalue, hs]
    cases AttributeValue.read name c.offset (Cursor.skipSpaces ⟨s, c₁.skipSpaces.offset + 1⟩)
    · rfl
    · rfl
  · rw [if_neg fun h => hequals ((head?_octets_iff_exists (by decide)).1 h)]
    split
    · rename_i s hs
      exact absurd ⟨s, hs⟩ hequals
    · rfl

/-! ### The whole tag -/

/-- The attributes of the element `tag` that opens at `start`, from `pos` on, after those already
`read` (latest first); whether the tag closes itself; and the offset after it. -/
def readAttributes? (source tag : Text) (start : Nat) (read : List Attribute) (pos : Nat) :
    Option (Except Error (List Attribute × Bool × Nat)) :=
  match source.octets.drop (skipSpaces source pos) with
  | [] => some (.error ⟨start, .unterminatedTag tag⟩)
  | '>' :: _ => some (.ok (read.reverse, false, skipSpaces source pos + 1))
  | '/' :: '>' :: _ => some (.ok (read.reverse, true, skipSpaces source pos + 2))
  | _ =>
    match readAttribute? source tag (skipSpaces source pos) with
    | none => none
    | some (.error e) => some (.error e)
    | some (.ok (a, stop)) =>
      if _h : pos < stop ∧ stop ≤ source.size then
        readAttributes? source tag start (a :: read) stop
      else none
termination_by source.size - pos

/-- What was read of a tag, with the offset of the place after it instead of the place. -/
def tagAtOffset (found : List Attribute × Bool × Cursor) : List Attribute × Bool × Nat :=
  (found.1, found.2.1, found.2.2.offset)

/-- Where the tag does not end there is an attribute to read. -/
lemma readAttributes?_of_attribute {source tag : Text} {start : Nat} {read : List Attribute}
    {c : Cursor} (h : c.In source) (hrest : c.skipSpaces.rest ≠ [])
    (hclose : ∀ s, c.skipSpaces.rest ≠ '>' :: s)
    (hself : ∀ s, c.skipSpaces.rest ≠ '/' :: '>' :: s) :
    readAttributes? source tag start read c.offset =
      match readAttribute? source tag c.skipSpaces.offset with
      | none => none
      | some (.error e) => some (.error e)
      | some (.ok (a, stop)) =>
        if c.offset < stop ∧ stop ≤ source.size then
          readAttributes? source tag start (a :: read) stop
        else none := by
  rw [readAttributes?, skipSpaces_eq h, (in_skipSpaces h).drop_octets]
  split
  · rename_i heq
    have hsize := length_octets c.skipSpaces.rest
    rw [heq] at hsize
    exact absurd (size_eq_zero.1 hsize.symm) hrest
  · rename_i heq
    obtain ⟨s, hs, -⟩ := exists_of_octets_eq_cons (by decide) heq
    exact absurd hs (hclose s)
  · rename_i heq
    obtain ⟨s, hs, hs'⟩ := exists_of_octets_eq_cons (by decide) heq
    obtain ⟨t, rfl, -⟩ := exists_of_octets_eq_cons (by decide) hs'.symm
    exact absurd hs (hself t)
  · rfl

/-- **The attributes of a tag are read as they are by characters**, and every cut is fine.

**Proof sketch.** Induction along the attributes. Each one is not empty and ends in the source, so
the loop goes on. -/
theorem readAttributes?_eq {source : Text} {c : Cursor} (h : c.In source) (tag : Text) (start : Nat)
    (read : List Attribute) : readAttributes? source tag start read c.offset =
      some ((Tag.readAttributes tag start read c).map tagAtOffset) := by
  fun_induction Tag.readAttributes tag start read c with
  | case1 read c c₁ hs =>
    have hdrop : source.octets.drop (skipSpaces source c.offset) = [] := by
      rw [skipSpaces_eq h, (in_skipSpaces h).drop_octets, hs]
      rfl
    rw [readAttributes?, hdrop]
    rfl
  | case2 read c c₁ s hs =>
    have hdrop : source.octets.drop (skipSpaces source c.offset) = '>' :: octets s := by
      rw [skipSpaces_eq h, (in_skipSpaces h).drop_octets, hs, octets_cons_of_ascii (by decide)]
    rw [readAttributes?, hdrop, skipSpaces_eq h]
    rfl
  | case3 read c c₁ s hs =>
    have hdrop : source.octets.drop (skipSpaces source c.offset) = '/' :: '>' :: octets s := by
      rw [skipSpaces_eq h, (in_skipSpaces h).drop_octets, hs, octets_cons_of_ascii (by decide),
        octets_cons_of_ascii (by decide)]
    rw [readAttributes?, hdrop, skipSpaces_eq h]
    rfl
  | case4 read c c₁ e herror hrest hclose hself =>
    have hattribute := readAttribute?_eq (in_skipSpaces h) tag
    rw [readAttributes?_of_attribute h hrest hclose hself, hattribute, herror]
    rfl
  | case5 read c c₁ a c₂ hread hrest hclose hself ih =>
    have hattribute := readAttribute?_eq (in_skipSpaces h) tag
    obtain ⟨gap, -, hgap⟩ := c.exists_reads_skipSpaces
    obtain ⟨-, -, written, -, hwritten⟩ := Attribute.read_reads hread
    have hc₂ : c₂.In source := (in_skipSpaces h).of_reads hwritten
    have hfurther : c.offset < c₂.offset := (hgap.trans hwritten).offset_lt
      (Nat.lt_of_lt_of_le (Attribute.read_shorter hread) c.length_skipSpaces_le)
    have hwithin : c₂.offset ≤ source.size := by
      rw [← hc₂.offset_add_size]
      exact Nat.le_add_right _ _
    rw [readAttributes?_of_attribute h hrest hclose hself, hattribute, hread]
    dsimp only [Except.map, atOffset]
    rw [if_pos ⟨hfurther, hwithin⟩]
    exact ih hc₂

end OneFile.Bytewise
