import OneFile.Component.Assemble
import OneFile.Component.Id
import OneFile.Markup.Parser
import OneFile.Markup.Printer
import OneFile.Markup.Scope

/-!
# Compiling a component

One component source becomes a module with a component function, and a stylesheet. Compilation
keeps nothing between calls: what is returned depends on the source, the options, the readers of
scripts and styles and, when ids are drawn at random, the id that was drawn.

## Main definitions

* `OneFile.CompileOptions`, `OneFile.CompileOutput`
* `OneFile.compile`
* `OneFile.Note`, `OneFile.compileNotes` — what a compilation reports on its way.
-/

namespace OneFile

open Markup

/-- The settings of a compilation. -/
structure CompileOptions where
  /-- Whether styles are to apply to this component only. -/
  scope : Bool := false
  /-- The component's id, used as it is. -/
  id : Option Text := none
  /-- How the id is chosen when none is given. -/
  idStrategy : IdStrategy := .random
deriving DecidableEq, Repr, Inhabited

/-- The module and the stylesheet; the latter is empty when there are no styles. -/
structure CompileOutput where
  code : Text
  styles : Text
deriving DecidableEq, Repr

/-- The id to scope with, when scoping is asked for. -/
def CompileOptions.scopeId? (options : CompileOptions) (fresh source : Text) : Option Text :=
  if options.scope then some (resolveId options.id options.idStrategy fresh source) else none

/-- The document of a source. -/
def readDocument (source : Text) : Except CompileError Document :=
  match parse source with
  | .error e => .error (.ofMarkup e)
  | .ok document => .ok document

/-- The pieces of the template: its nodes written out, scoped if there is an id. -/
def templatePieces (scopeId : Option Text) (nodes : List Node) : List Piece :=
  let nodes := match scopeId with
    | some id => scopeTemplate id nodes
    | none => nodes
  nodes.map fun node => Piece.made node.render

/-- The piece of a style block, if it has content: as it stands, or scoped if there is an id. -/
def stylePiece (source : Text) (scopeId : Option Text) (style : Element)
    (readers : Readers := .own) : Except CompileError (Option Piece) :=
  match style.contentSpan?, scopeId with
  | none, _ => .ok none
  | some content, none => .ok (some (.verbatim source content))
  | some content, some id =>
    match readers.style id (content.slice source) with
    | .error message => .error (.style style.span message)
    | .ok css => .ok (some (.made css))

/-- The pieces of all style blocks; the first block that cannot be read ends it. -/
def stylePieces (source : Text) (scopeId : Option Text) (styles : List Element)
    (readers : Readers := .own) : Except CompileError (List Piece) :=
  match styles with
  | [] => .ok []
  | style :: styles =>
    match stylePiece source scopeId style readers with
    | .error e => .error e
    | .ok piece =>
      match stylePieces source scopeId styles readers with
      | .error e => .error e
      | .ok pieces => .ok (piece.toList ++ pieces)

/-- The buckets of a document. Scripts are read before styles. -/
def fillBuckets (source : Text) (scopeId : Option Text) (document : Document)
    (readers : Readers := .own) : Except CompileError Buckets :=
  let parts := Parts.ofNodes document.nodes
  match Buckets.addScripts source parts.scripts {} readers with
  | .error e => .error e
  | .ok b =>
    match stylePieces source scopeId parts.styles readers with
    | .error e => .error e
    | .ok styles =>
      .ok { b with
        template := templatePieces scopeId parts.template
        shape := .ofNodes parts.template
        styles }

/-- Compiles one component. `fresh` is the id to use when one is to be drawn at random. -/
def compile (options : CompileOptions) (fresh source : Text) (readers : Readers := .own) :
    Except CompileError CompileOutput :=
  match readDocument source with
  | .error e => .error e
  | .ok document =>
    match fillBuckets source (options.scopeId? fresh source) document readers with
    | .error e => .error e
    | .ok b => .ok ⟨b.moduleText, b.styleText⟩

/-! ### Notes -/

/-- What a compilation reports on its way. -/
inductive Note where
  | parsed (topLevel : Nat)
  | sorted (moduleScripts instanceScripts styles template : Nat)
  | scoping (name : Text)
  | readScript (range : Span) (statements : Nat) (isModule : Bool)
deriving DecidableEq, Repr

/-- The wording of a note. -/
def Note.describe : Note → Text
  | .parsed n => "parsed ".toList ++ Text.ofNat n ++ " top-level nodes".toList
  | .sorted m i s t =>
    "segmented: ".toList ++ Text.ofNat m ++ " module script(s), ".toList ++ Text.ofNat i
      ++ " instance script(s), ".toList ++ Text.ofNat s ++ " style(s), ".toList ++ Text.ofNat t
      ++ " template node(s)".toList
  | .scoping name => "scoping with ".toList ++ name
  | .readScript range n isModule =>
    "script at ".toList ++ Text.ofNat range.start ++ "..".toList ++ Text.ofNat range.stop
      ++ ": ".toList ++ Text.ofNat n ++ " statement(s), module = ".toList
      ++ (if isModule then "true".toList else "false".toList)

/-- The notes on scripts, up to the first that cannot be read. -/
def scriptNotes (source : Text) (blocks : List ScriptBlock) (readers : Readers := .own) :
    List Note :=
  match blocks with
  | [] => []
  | block :: blocks =>
    match block.statements source readers with
    | .error _ => []
    | .ok statements =>
      .readScript block.element.span statements.length block.isModule
        :: scriptNotes source blocks readers

/-- The notes of a compilation, in order. -/
def compileNotes (options : CompileOptions) (fresh source : Text) (readers : Readers := .own) :
    List Note :=
  match readDocument source with
  | .error _ => []
  | .ok document =>
    let parts := Parts.ofNodes document.nodes
    .parsed document.nodes.length
      :: .sorted parts.moduleScripts parts.instanceScripts parts.styles.length parts.template.length
      :: ((options.scopeId? fresh source).map fun id => Note.scoping (scopeAttribute id)).toList
      ++ scriptNotes source parts.scripts readers

end OneFile
