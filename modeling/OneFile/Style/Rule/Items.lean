import OneFile.Style.Declaration

/-!
# Items in braces

What is between braces is a list of items: declarations, which semicolons end, and rules, which a
semicolon or braces end.

## Main definitions

* `OneFile.Style.Item` — an item that starts with an at sign, or the place of any other item.
* `OneFile.Style.Item.next`
* `OneFile.Style.Item.declarations` — items that are all declarations.
-/

namespace OneFile.Style

open Reading

/-- Whether a node is a semicolon. -/
def Node.isSemicolon (n : Node) : Bool := n matches .leaf .semicolon _

/-- Whether a node is a stretch in braces. -/
def Node.isBrace (n : Node) : Bool := n matches .block .brace _ _ _

namespace Item

/-- The nodes before the first one that ends them. -/
def before (ends : Node → Bool) : Reading (List Node) := modifyGet fun ns => ns.span (!ends ·)

/-- The nodes up to a semicolon, which is passed over. -/
def upToSemicolon : Reading (List Node) := do
  let ns ← before Node.isSemicolon
  modify (·.drop 1)
  return ns

/-- The nodes between braces. -/
def braces : Reading (List Node) := do
  let .block .brace _ children _ :: others ← get | failure
  set others
  return children

/-- What is between the name of a rule and its end: what comes before the braces, and what is
between them, if there are any. -/
structure Parts where
  preface : List Node
  body : Option (List Node)

/-- The parts of a rule whose name comes first. -/
def parts : Reading Parts := do
  let preface ← before fun n => n.isSemicolon || n.isBrace
  match ← attempt braces with
  | some body => return ⟨preface, some body⟩
  | none =>
    modify (·.drop 1)
    return ⟨preface, none⟩

/-- Passes over what is between items. -/
def skip : Reading Unit := modify fun ns => ns.dropWhile fun n => n.isGap || n.isSemicolon

/-- The name of a rule. -/
def ruleName : Reading Text := do
  let .leaf (.atWord name) _ :: others ← get | failure
  set others
  return name

/-- Whether the next node is a name. -/
def startsName : Reading Bool := return (← get).head? matches some (.leaf (.ident _) _)

/-- What `item` makes of all items, at most `fuel`. -/
def allWithin {α : Type} (item : Reading α) : Nat → Reading (List α)
  | 0 => return []
  | fuel + 1 => do
    skip
    if (← get).isEmpty then return []
    let a ← item
    return a :: (← allWithin item fuel)

/-- What `item` makes of all items between braces. -/
def all {α : Type} (item : Reading α) (ns : List Node) : Option (List α) :=
  (do allWithin item (← get).length : Reading (List α)).all ns

/-- A declaration up to its semicolon. -/
def declaration : Reading Declaration := do (Declaration.read.all (← upToSemicolon) : Option _)

/-- The declarations between braces, if there is nothing else. -/
def declarations (ns : List Node) : Option (List Declaration) := all declaration ns

/-- What `item` makes of the declarations between braces. Those that it makes nothing of are passed
over, as is everything else. -/
def lenient {α : Type} (item : Reading α) (ns : List Node) : List α :=
  let one : Reading (Option α) := do
    if (← attempt ruleName).isSome then
      let _ ← parts
      return none
    return item.all (← upToSemicolon)
  ((all one ns).getD []).filterMap id

end Item

end OneFile.Style
