import OneFile.Markup.Node
import OneFile.Markup.Brace
import OneFile.Markup.Error
import OneFile.Cursor

/-!
# Reading an opening tag

Attributes and their values, up to the bracket that ends the tag.

## Main definitions

* `OneFile.Markup.valueParts` — a quoted value as literal stretches and expressions.
* `OneFile.Markup.Attribute.read` — one attribute.
* `OneFile.Markup.Tag.readAttributes` — all attributes of a tag, and how the tag ends.

## Main results

* `OneFile.Markup.Attribute.read_shorter`, `OneFile.Markup.Tag.readAttributes_shorter` — reading
  consumes.
-/

namespace OneFile.Markup

/-! ### Values -/

/-- A literal stretch, unless it is empty. -/
def literalPart (t : Text) : List ValuePart := if t.isEmpty then [] else [.text t]

/-- The stretches of a quoted value from one of them on. The first brace that does not balance
makes all that is left literal. -/
def valuePartsFrom (value : Text) : List ValuePart :=
  match _h : Brace.inside? (value.dropWhile (· != '{')) with
  | none => literalPart value
  | some (source, after) =>
    literalPart (value.takeWhile (· != '{')) ++ .expression source :: valuePartsFrom after
termination_by value.length
decreasing_by
  exact Nat.lt_of_lt_of_le (Brace.length_lt_of_inside? _h) (List.dropWhile_sublist _).length_le

/-- A quoted value as literal stretches and expressions; an empty value is one empty stretch. -/
def valueParts (value : Text) : List ValuePart :=
  match valuePartsFrom value with
  | [] => [.text []]
  | parts => parts

/-- The characters of a bare value, and what follows: it ends at a space, at `>` or at `/>`. -/
def bareValue : Text → Text × Text
  | [] => ([], [])
  | c :: s =>
    if Text.isSpace c || c == '>' || (c == '/' && s.head? == some '>') then ([], c :: s)
    else (c :: (bareValue s).1, (bareValue s).2)

/-- A bare value leaves no more than there was. -/
theorem length_bareValue_le (s : Text) : (bareValue s).2.length ≤ s.length := by
  induction s with
  | nil => simp [bareValue]
  | cons c s ih =>
    simp only [bareValue]
    split
    · exact Nat.le_refl _
    · exact Nat.le_succ_of_le ih

/-! ### One attribute -/

/-- Whether an attribute name ends before this character. -/
def endsName (c : Char) (s : Text) : Bool :=
  Text.isSpace c || ['=', '>', '"', '\'', '\x7b', '<'].contains c ||
    (c == '/' && s.head? == some '>')

/-- The name of an attribute, and what follows. -/
def attributeName : Text → Text × Text
  | [] => ([], [])
  | c :: s =>
    if endsName c s then ([], c :: s)
    else (c :: (attributeName s).1, (attributeName s).2)

/-- A name and what follows it are the text. -/
theorem attributeName_append (s : Text) : (attributeName s).1 ++ (attributeName s).2 = s := by
  induction s with
  | nil => rfl
  | cons c s ih =>
    simp only [attributeName]
    split
    · rfl
    · simp [ih]

/-- The value after an equals sign and the spaces around it, for the attribute `name` that starts
at `start`. -/
def AttributeValue.read (name : Text) (start : Nat) (c : Cursor) :
    Except Error (AttributeValue × Cursor) :=
  match c.rest with
  | [] => .error ⟨start, .missingValue name⟩
  | d :: s =>
    if d = '"' ∨ d = '\'' then
      match Text.breakOn [d] s with
      | none => .error ⟨start, .unterminatedValue name⟩
      | some (value, after) => .ok (.text (valueParts value), c.advance (d :: value ++ [d]) after)
    else if d = '{' then
      match Brace.inside? (d :: s) with
      | none => .error ⟨c.offset, .unterminatedExpression⟩
      | some (source, after) => .ok (.expression source, ⟨after, c.offset + source.size + 2⟩)
    else
      .ok (.text [.text (bareValue (d :: s)).1],
        c.advance (bareValue (d :: s)).1 (bareValue (d :: s)).2)

/-- One attribute of an element `tag`. -/
def Attribute.read (tag : Text) (c : Cursor) : Except Error (Attribute × Cursor) :=
  let name := (attributeName c.rest).1
  let afterName := c.advance name (attributeName c.rest).2
  if name.isEmpty then .error ⟨c.offset, .unexpectedCharacter tag⟩
  else
    match afterName.skipSpaces.rest with
    | '=' :: s =>
      match AttributeValue.read name c.offset
        (Cursor.skipSpaces ⟨s, afterName.skipSpaces.offset + 1⟩) with
      | .error e => .error e
      | .ok (value, c') => .ok (⟨name, value, ⟨c.offset, c'.offset⟩⟩, c')
    | _ => .ok (⟨name, .empty, ⟨c.offset, afterName.offset⟩⟩, afterName)

/-- Reading a value leaves no more than there was. -/
theorem AttributeValue.read_shorter {name : Text} {start : Nat} {c c' : Cursor} {v : AttributeValue}
    (h : AttributeValue.read name start c = .ok (v, c')) : c'.rest.length ≤ c.rest.length := by
  unfold AttributeValue.read at h
  split at h
  · simp at h
  · rename_i d s hs
    rw [hs]
    split at h
    · split at h
      · simp at h
      · rename_i value after hb
        simp only [Except.ok.injEq, Prod.mk.injEq] at h
        rw [← h.2, Text.breakOn_eq_some hb]
        simp only [Cursor.rest_advance, List.length_cons, List.length_append]
        omega
    · split at h
      · split at h
        · simp at h
        · rename_i source after hb
          simp only [Except.ok.injEq, Prod.mk.injEq] at h
          rw [← h.2]
          exact Nat.le_of_lt (Brace.length_lt_of_inside? hb)
      · simp only [Except.ok.injEq, Prod.mk.injEq] at h
        rw [← h.2]
        exact length_bareValue_le _

/-- Reading an attribute consumes something. -/
theorem Attribute.read_shorter {tag : Text} {c c' : Cursor} {a : Attribute}
    (h : Attribute.read tag c = .ok (a, c')) : c'.rest.length < c.rest.length := by
  have happ := congrArg List.length (attributeName_append c.rest)
  simp only [List.length_append] at happ
  simp only [Attribute.read] at h
  split at h
  · simp at h
  · rename_i hne
    have hpos : 0 < (attributeName c.rest).1.length := by
      cases hn : (attributeName c.rest).1 with
      | nil => simp [hn] at hne
      | cons => simp
    split at h
    · rename_i s hs
      have hle := Cursor.length_skipSpaces_le
        (c.advance (attributeName c.rest).1 (attributeName c.rest).2)
      rw [hs] at hle
      simp only [Cursor.rest_advance, List.length_cons] at hle
      split at h
      · simp at h
      · rename_i v c₂ hv
        simp only [Except.ok.injEq, Prod.mk.injEq] at h
        have h₁ := AttributeValue.read_shorter hv
        have h₂ := Cursor.length_skipSpaces_le
          ⟨s, (c.advance (attributeName c.rest).1 (attributeName c.rest).2).skipSpaces.offset + 1⟩
        rw [← h.2]
        simp only at h₂
        omega
    · simp only [Except.ok.injEq, Prod.mk.injEq] at h
      rw [← h.2]
      simp only [Cursor.rest_advance]
      omega

/-! ### The whole tag -/

/-- The attributes of the element `tag` that opens at `start`, after those already `read` (latest
first); whether the tag closes itself; and the place after it. -/
def Tag.readAttributes (tag : Text) (start : Nat) (read : List Attribute) (c : Cursor) :
    Except Error (List Attribute × Bool × Cursor) :=
  let c₁ := c.skipSpaces
  match c₁.rest with
  | [] => .error ⟨start, .unterminatedTag tag⟩
  | '>' :: s => .ok (read.reverse, false, ⟨s, c₁.offset + 1⟩)
  | '/' :: '>' :: s => .ok (read.reverse, true, ⟨s, c₁.offset + 2⟩)
  | _ =>
    match _h : Attribute.read tag c₁ with
    | .error e => .error e
    | .ok (a, c₂) => Tag.readAttributes tag start (a :: read) c₂
termination_by c.rest.length
decreasing_by exact Nat.lt_of_lt_of_le (Attribute.read_shorter _h) c.length_skipSpaces_le

/-- Reading a tag consumes something. -/
theorem Tag.readAttributes_shorter {tag : Text} {start : Nat} {read as : List Attribute}
    {closed : Bool} {c c' : Cursor}
    (h : Tag.readAttributes tag start read c = .ok (as, closed, c')) :
    c'.rest.length < c.rest.length := by
  fun_induction Tag.readAttributes tag start read c with
  | case1 => simp at h
  | case2 read c c₁ s hs =>
    have := c.length_skipSpaces_le
    simp only [Except.ok.injEq, Prod.mk.injEq] at h
    rw [← h.2.2]
    simp_all only [c₁, List.length_cons]
    omega
  | case3 read c c₁ s hs =>
    have := c.length_skipSpaces_le
    simp only [Except.ok.injEq, Prod.mk.injEq] at h
    rw [← h.2.2]
    simp_all only [c₁, List.length_cons]
    omega
  | case4 => simp at h
  | case5 read c c₁ a c₂ hc _ _ _ ih =>
    have h₁ := ih h
    have h₂ := Attribute.read_shorter hc
    have h₃ := c.length_skipSpaces_le
    simp only [c₁] at h₂
    omega

end OneFile.Markup
