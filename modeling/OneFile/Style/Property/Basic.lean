import OneFile.Style.Value.Reader

/-!
# Properties

## Main definitions

* `OneFile.Style.Property` — a name with the grammar of its values.
* `OneFile.Style.Property.find?` — the property of a name, in a list of properties.
-/

namespace OneFile.Style

/-- A property whose values have a grammar. -/
structure Property where
  name : String
  /-- The vendors whose mark the name may have. -/
  vendors : List String := []
  grammar : Value.Grammar

namespace Property

/-- A property that is known by its name alone. -/
def bare (name : String) : Property := ⟨name, [], failure⟩

/-- A property that is known by its name alone, which may have the marks of vendors. -/
def marked (name : String) (vendors : List String) : Property := ⟨name, vendors, failure⟩

/-- Properties with the same grammar. -/
def each (names : List String) (grammar : Value.Grammar) : List Property :=
  names.map (⟨·, [], grammar⟩)

/-- A property whose values are names. -/
def words (name : String) (values : List String) : Property :=
  ⟨name, [], Value.single (Term.oneWord values)⟩

/-- The names that a property has. -/
def names (p : Property) : List Text :=
  p.name.toList :: p.vendors.map fun v => '-' :: (v.toList ++ '-' :: p.name.toList)

/-- The property of a name in lower case. -/
def find? (properties : List Property) (name : Text) : Option Property :=
  properties.find? fun p => p.names.contains name

end Property

end OneFile.Style
