import OneFile.Markup.Scope
import OneFile.Style.Selector.Scope
import OneFile.Style.Sheet

/-!
# Scoping style sheets

## Main definitions

* `OneFile.Style.Sheet.scope` — the style sheet for the elements with an attribute.
* `OneFile.Style.scope?` — the same, from text to text.
-/

namespace OneFile.Style

/-- The style sheet for those elements that have an attribute. -/
def Sheet.scope (attr : Text) (sheet : Sheet) : Sheet :=
  ⟨sheet.comments, Rule.mapAllSelectors (Selector.scope attr) sheet.rules⟩

/-- The text of a style sheet for the elements of a component; `none` if it is not valid. -/
def scope? (id css : Text) : Option Text :=
  (Sheet.read? css).map fun sheet => (sheet.scope (Markup.scopeAttribute id)).write

end OneFile.Style
