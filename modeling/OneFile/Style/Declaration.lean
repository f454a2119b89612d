import OneFile.Style.Property.Known

/-!
# Declarations

A declaration gives a property a value. The value is kept as pieces if the property has no grammar,
or does not allow for the value.

## Main definitions

* `OneFile.Style.Declaration`
* `OneFile.Style.Declaration.read`
* `OneFile.Style.Declaration.write`
-/

namespace OneFile.Style

open Reading

/-- A property and its value. -/
structure Declaration where
  name : Text
  value : Value
  important : Bool
deriving Repr

namespace Declaration

/-! ### Reading -/

/-- Whether a name is that of a variable. -/
def isVariable (name : Text) : Bool := "--".toList.isPrefixOf name

/-- Whether a node ends a value: an exclamation mark, or braces after a property that is no
variable. -/
def endsValue (name : Text) : Node → Bool
  | .leaf (.delim '!') _ => true
  | .block .brace _ _ _ => !isVariable name
  | _ => false

/-- The nodes of a value. -/
def valueNodes (name : Text) : Reading (List Node) :=
  modifyGet fun ns => ns.span fun n => !endsValue name n

/-- The value of a property. -/
def valueOf (name : Text) (ns : List Node) : Option Value :=
  let lower := Text.lower name
  if lower = "all".toList then
    (fun t => .items [[t]]) <$> (Term.oneWord ["initial", "inherit", "unset", "revert",
      "revert-layer"]).all ns
  else
    match (Property.ofName? lower).bind fun p => p.grammar.all ns with
    | some items => some (.items items)
    | none => (Piece.ofNodes ns).map .pieces

/-- What follows the name of a property. -/
def body (name : Text) : Reading Declaration := do
  token .colon
  let ns ← valueNodes name
  let value ← (valueOf name ns : Option _)
  let important ← passes do
    delim '!'
    word "important"
  return ⟨Property.fold name, value, important⟩

/-- A declaration. -/
def read : Reading Declaration := do body (← ident)

/-! ### Writing -/

/-- A declaration without its end; `important` tells whether that is written. -/
def writeBare (important : Bool) (d : Declaration) : Text :=
  writeIdent d.name ++ ':' :: ' ' :: (d.value.write ++
    if important then " !important".toList else [])

/-- A declaration with its end. -/
def write (d : Declaration) : Text := d.writeBare d.important ++ [';']

/-- The declarations in the order that they are written in: important ones come last. -/
def ordered (ds : List Declaration) : List Declaration :=
  ds.filter (!·.important) ++ ds.filter (·.important)

end Declaration

end OneFile.Style
