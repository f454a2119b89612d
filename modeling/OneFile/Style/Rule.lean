import OneFile.Style.Query
import OneFile.Style.Selector
import OneFile.Style.Support

/-!
# Rules

A rule either holds rules itself, in which case its head tells what they are about, or it does not.
The declarations of a style rule are rules in it too: each stretch of them is one.

## Main definitions

* `OneFile.Style.Head` — what the rules in a rule are about.
* `OneFile.Style.Rule`
* `OneFile.Style.Rule.mapSelectors` — a change of the selectors of rules.
-/

namespace OneFile.Style

/-- The name of a layer, as its parts. -/
abbrev LayerName := List Text

/-- What the rules in a rule are about. -/
inductive Head where
  | style (selectors : List Selector)
  /-- A style rule with a name of its own. -/
  | nest (selectors : List Selector)
  | media (queries : List MediaQuery)
  | support (condition : Support)
  | layer (name : Option LayerName)
  | container (query : ContainerQuery)
  /-- The part of a document from some elements on, up to others. -/
  | scope (start stop : Option (List Selector))
  | startingStyle
  /-- All documents, for one vendor. -/
  | document
deriving Repr

/-- Where in an animation a frame is, and the declarations for it. -/
structure Frame where
  places : List (List Term)
  declarations : List Declaration
deriving Repr

/-- The pages that a rule is about. -/
structure PageSelector where
  name : Option Text
  pseudoClasses : List Text
deriving Repr

/-- A rule that holds no rules. -/
inductive Statement where
  | «import» (url : Text) (layer : Option (Option LayerName)) (support : Option Support)
    (queries : List MediaQuery)
  | «namespace» (label : Option Text) (url : Text)
  /-- The order of layers. -/
  | layers (names : List LayerName)
  | keyframes (vendor : Option Text) (label : Term) (frames : List Frame)
  /-- Declarations about something that is not an element, perhaps with a name. -/
  | descriptors (name : Text) (label : Option Text) (ds : List Declaration)
  /-- Declarations about pages and about the boxes in their margins. -/
  | page (selectors : List PageSelector) (ds : List Declaration)
    (margins : List (Text × List Declaration))
  /-- What the values of a variable are like. -/
  | variableType (name : Text) (type : Text) (inherits : Bool) (initial : Option Value)
  /-- A rule that no meaning is known for. -/
  | unknown (name : Text) (preface : List Piece) (body : Option (List Piece))
deriving Repr

/-- A rule. -/
inductive Rule where
  /-- A stretch of declarations in a style rule. -/
  | declarations (ds : List Declaration)
  | block (head : Head) (body : List Rule)
  | statement (s : Statement)
deriving Repr

/-! ### Changing selectors -/

/-- The head with `f` applied to its selectors. -/
def Head.mapSelectors (f : Selector → Selector) : Head → Head
  | style selectors => style (selectors.map f)
  | nest selectors => nest (selectors.map f)
  | scope start stop => scope (start.map (List.map f)) (stop.map (List.map f))
  | h => h

namespace Rule

mutual

/-- The rule with `f` applied to the selectors of all heads in it. -/
def mapSelectors (f : Selector → Selector) : Rule → Rule
  | block head body => block (head.mapSelectors f) (mapAllSelectors f body)
  | r => r

/-- The rules with `f` applied to the selectors of all heads in them. -/
def mapAllSelectors (f : Selector → Selector) : List Rule → List Rule
  | [] => []
  | r :: rs => r.mapSelectors f :: mapAllSelectors f rs

end

/-- A rule before others. Stretches of declarations next to each other are one. -/
def before : Rule → List Rule → List Rule
  | declarations ds, declarations es :: rs => declarations (ds ++ es) :: rs
  | r, rs => r :: rs

end Rule

end OneFile.Style
