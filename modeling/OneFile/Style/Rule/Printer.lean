import OneFile.Style.Rule
import OneFile.Style.Selector.Printer

/-!
# Writing rules

Rules are written with two blanks of indentation for each rule that they are in, and with empty
lines between them.

## Main definitions

* `OneFile.Style.Rule.write`
* `OneFile.Style.Rule.writeAll`
-/

namespace OneFile.Style

/-- The start of a line with an indentation of `n` blanks. -/
def newline (n : Nat) : Text := '\n' :: List.replicate n ' '

/-! ### Heads -/

/-- The name of a layer. -/
def LayerName.write (name : LayerName) : Text := ['.'].intercalate (name.map writeIdent)

/-- A head with a blank after it. -/
def Head.write : Head → Text
  | style selectors => Selector.writeList selectors ++ [' ']
  | nest selectors => "@nest ".toList ++ Selector.writeList selectors ++ [' ']
  | media queries => "@media ".toList ++ MediaQuery.writeList queries ++ [' ']
  | support condition => "@supports ".toList ++ condition.write ++ [' ']
  | layer name => "@layer ".toList ++ name.elim [] fun n => n.write ++ [' ']
  | container query => "@container ".toList ++ query.write ++ [' ']
  | scope start stop =>
    "@scope ".toList ++ (start.elim [] fun s => '(' :: (Selector.writeList s ++ [')', ' ']))
      ++ stop.elim [] fun s => "to (".toList ++ Selector.writeList s ++ [')', ' ']
  | startingStyle => "@starting-style ".toList
  | document => "@-moz-document url-prefix() ".toList

/-- Whether a head is that of a style rule. -/
def Head.isStyle : Head → Bool
  | style _ | nest _ => true
  | _ => false

/-! ### Declarations -/

/-- Declarations, one on each line. -/
def Declaration.writeLines (n : Nat) (ds : List Declaration) : Text :=
  (newline n).intercalate ((ordered ds).map write)

/-- Declarations in braces. -/
def Declaration.writeBlock (n : Nat) (ds : List Declaration) : Text :=
  '{' :: (((ordered ds).flatMap fun d => newline (n + 2) ++ d.write) ++ newline n ++ ['}'])

/-! ### Statements -/

/-- A frame of an animation. -/
def Frame.write (n : Nat) (f : Frame) : Text :=
  Term.writeItems false f.places ++ ' ' :: Declaration.writeBlock n f.declarations

/-- The pages that a rule is about. -/
def PageSelector.write (s : PageSelector) : Text :=
  s.name.elim [] writeIdent ++ s.pseudoClasses.flatMap (':' :: ·)

namespace Statement

/-- Whether no empty line is needed between two statements of this kind. -/
def isTight : Statement → Bool
  | «import» .. | «namespace» .. | layers _ => true
  | _ => false

/-- A condition after the word for it. -/
def writeSupport (s : Support) : Text :=
  let bare : Bool := match s with
    | .declaration .. | .unknown _ => true
    | _ => false
  " supports".toList ++ parenthesize (!bare) s.write

/-- A statement. -/
def write (n : Nat) : Statement → Text
  | «import» url layer support queries =>
    "@import ".toList ++ writeString url
      ++ (layer.elim [] fun name =>
        " layer".toList ++ name.elim [] fun l => '(' :: (l.write ++ [')']))
      ++ support.elim [] writeSupport
      ++ (if queries.isEmpty then [] else ' ' :: MediaQuery.writeList queries) ++ [';']
  | «namespace» label url =>
    "@namespace ".toList ++ (label.elim [] fun l => writeIdent l ++ [' ']) ++ writeString url
      ++ [';']
  | layers names => "@layer ".toList ++ ", ".toList.intercalate (names.map LayerName.write) ++ [';']
  | keyframes vendor label frames =>
    '@' :: ((vendor.elim [] fun v => '-' :: (v ++ ['-'])) ++ "keyframes ".toList ++ label.write
      ++ " \x7b".toList
      ++ ['\n'].intercalate (frames.map fun f => newline (n + 2) ++ f.write (n + 2))
      ++ newline n ++ ['}'])
  | descriptors name label ds =>
    '@' :: (name ++ ' ' :: ((label.elim [] fun l => writeIdent l ++ [' '])
      ++ Declaration.writeBlock n ds))
  | page selectors ds margins =>
    let boxes := margins.map fun (name, ds) =>
      newline (n + 2) ++ '@' :: (name ++ ' ' :: Declaration.writeBlock (n + 2) ds)
    "@page ".toList
      ++ (if selectors.isEmpty then []
        else ", ".toList.intercalate (selectors.map PageSelector.write) ++ [' '])
      ++ '{' :: (((Declaration.ordered ds).flatMap fun d => newline (n + 2) ++ d.write)
        ++ (if ds.isEmpty || margins.isEmpty then [] else ['\n']) ++ ['\n'].intercalate boxes
        ++ newline n ++ ['}'])
  | variableType name type inherits initial =>
    "@property ".toList ++ writeIdent name ++ " \x7b".toList
      ++ newline (n + 2) ++ "syntax: ".toList ++ type ++ [';']
      ++ newline (n + 2) ++ "inherits: ".toList
      ++ (if inherits then "true".toList else "false".toList)
      ++ (initial.elim [] fun v =>
        ';' :: (newline (n + 2) ++ "initial-value: ".toList ++ v.write ++ [';']))
      ++ newline n ++ ['}']
  | unknown name preface body =>
    '@' :: (name ++ (if preface.isEmpty then [] else ' ' :: Piece.writeAll preface)
      ++ body.elim [';'] fun ps =>
        " \x7b".toList ++ newline (n + 2) ++ Piece.writeAll ps ++ newline n ++ ['}'])

end Statement

/-! ### Rules -/

namespace Rule

/-- Whether no empty line is needed between two rules of this kind. -/
def isTight : Rule → Bool
  | statement s => s.isTight
  | _ => false

mutual

/-- A rule at an indentation of `n` blanks. -/
def write (n : Nat) : Rule → Text
  | declarations ds => Declaration.writeLines n ds
  | statement s => s.write n
  | block head body =>
    head.write ++ '{' ::
      ((if head.isStyle && body.isEmpty then [] else newline (n + 2) ++ writeAll (n + 2) body)
        ++ newline n ++ ['}'])

/-- Rules at an indentation of `n` blanks. -/
def writeAll (n : Nat) : List Rule → Text
  | [] => []
  | r :: rs => r.write n ++ writeOthers n r.isTight rs

/-- The rules after another one. -/
def writeOthers (n : Nat) (tight : Bool) : List Rule → Text
  | [] => []
  | r :: rs =>
    (if tight && r.isTight then [] else ['\n']) ++ newline n ++ r.write n
      ++ writeOthers n r.isTight rs

end

end Rule

end OneFile.Style
