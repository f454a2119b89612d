import OneFile.Component.Compile
import OneFile.Bundle.Path

/-!
# Serving components to a bundler

A bundler hands over the files it meets. A component file is compiled, its module and stylesheet
are kept in a store under the file's id, and the bundler gets a small module that points to the
two under virtual ids. Later it asks for what the virtual ids stand for, and for the files that
compiled modules import.

## Main definitions

* `OneFile.Bundle.Store` — texts by file id.
* `OneFile.Bundle.VirtualId` — the id of a compiled module or stylesheet.
* `OneFile.Bundle.Plugin` — the settings and the two stores.
* `OneFile.Bundle.Plugin.transform`, `OneFile.Bundle.Plugin.load`, `OneFile.Bundle.resolve?`

## Main results

* `OneFile.Bundle.Store.get?_insert` — what a store holds after an insertion.
-/

namespace OneFile.Bundle

/-! ### Stores -/

/-- Texts by file id; of two entries for one id the first counts. -/
structure Store where
  entries : List (Text × Text) := []
deriving DecidableEq, Repr, Inhabited

namespace Store

/-- The text kept under an id. -/
def get? (store : Store) (id : Text) : Option Text :=
  (store.entries.find? fun e => e.1 == id).map Prod.snd

/-- The store with `text` under `id`, in place of what was there. -/
def insert (store : Store) (id text : Text) : Store :=
  ⟨(id, text) :: store.entries.filter fun e => e.1 != id⟩

/-- What a store holds after an insertion. -/
theorem get?_insert (store : Store) (id text id' : Text) :
    (store.insert id text).get? id' = if id' = id then some text else store.get? id' := by
  simp only [get?, insert, List.find?_cons]
  by_cases h : id' = id
  · simp [h]
  · have hne : (id == id') = false := by simpa using fun h' => h h'.symm
    simp only [hne, h, if_false, List.find?_filter]
    congr 2
    funext e
    by_cases he : e.1 = id' <;> simp [he, h]

end Store

/-! ### Virtual ids -/

/-- What every virtual id starts with. -/
def marker : Text := "virtual:sfc".toList

/-- The two things that a component is compiled to. -/
inductive Part where
  | module
  | stylesheet
deriving DecidableEq, Repr

/-- The file extension that stands for a part. -/
def Part.extension : Part → Text
  | .module => ".jsx".toList
  | .stylesheet => ".css".toList

/-- The id of a part of a compiled file. -/
structure VirtualId where
  file : Text
  part : Part
deriving DecidableEq, Repr

namespace VirtualId

/-- The id as it is written. -/
def toText (v : VirtualId) : Text := marker ++ v.file ++ v.part.extension

/-- A file id that can stand in a virtual id: not empty, and on one line. -/
def isFileId (file : Text) : Bool := !file.isEmpty && !file.contains '\n'

/-- Reads a virtual id. -/
def ofText? (s : Text) : Option VirtualId :=
  match marker.isPrefixOf? s with
  | none => none
  | some body =>
    match Text.dropSuffix? Part.module.extension body,
      Text.dropSuffix? Part.stylesheet.extension body with
    | some file, _ => if isFileId file then some ⟨file, .module⟩ else none
    | none, some file => if isFileId file then some ⟨file, .stylesheet⟩ else none
    | none, none => none

end VirtualId

/-- The id that an import stands for. Virtual ids stand for themselves; an import that starts
with a dot, made by a compiled module, is taken from the directory of the module's file; the rest
is left to others. -/
def resolve? (id : Text) (importer : Option Text) : Option Text :=
  if marker.isPrefixOf id then some id
  else
    match importer.bind marker.isPrefixOf? with
    | none => none
    | some file =>
      if id.head? = some '.' then
        some ((Path.ofText file).parent.join (Path.ofText id)).fold.toText
      else none

/-! ### The plugin -/

/-- The settings of a plugin. -/
structure PluginOptions where
  /-- Only files whose id ends in this are components. -/
  extension : Text := ".sfc".toList
  compile : CompileOptions := {}
deriving DecidableEq, Repr, Inhabited

/-- A plugin: its settings, and the modules and stylesheets compiled so far. -/
structure Plugin where
  options : PluginOptions := {}
  modules : Store := {}
  styles : Store := {}
deriving DecidableEq, Repr, Inhabited

/-- What a plugin makes of a file. -/
inductive Transformed where
  /-- The file is no component. -/
  | skipped
  /-- The component was rejected. -/
  | rejected (error : CompileError)
  /-- The module that stands in for the file. -/
  | proxy (code : Text)
deriving DecidableEq, Repr

/-- The line on a component that was rejected, up to the error's own wording. -/
def rejectionLine (id : Text) (place : Text.Location) (e : CompileError) (wording : Text) : Text :=
  "Error processing ".toList ++ id ++ ':' :: Text.ofNat place.line ++ ':' :: Text.ofNat place.column
    ++ ": [".toList ++ e.code ++ "] ".toList ++ wording

/-- The module that stands in for a compiled file. -/
def proxyText (id : Text) (hasStyles : Bool) : Text :=
  let module : Text := (VirtualId.mk id .module).toText
  let stylesheet : Text := (VirtualId.mk id .stylesheet).toText
  "export * from \"".toList ++ module ++ "\";\n".toList
    ++ "export \x7b default \x7d from \"".toList ++ module ++ "\";\n".toList
    ++ if hasStyles then "import \"".toList ++ stylesheet ++ "\";\n".toList else []

namespace Plugin

/-- What bundlers know the plugin by. -/
def name : Text := "sfc".toList

/-- Compiles a file if it is a component. `fresh` is the id to use when one is drawn at random. A
stylesheet is kept only if it is not empty. -/
def transform (p : Plugin) (fresh source id : Text) (readers : Readers := .own) :
    Transformed × Plugin :=
  if !p.options.extension.isSuffixOf id then (.skipped, p)
  else
    match compile p.options.compile fresh source readers with
    | .error e => (.rejected e, p)
    | .ok output =>
      let hasStyles := !output.styles.isEmpty
      (.proxy (proxyText id hasStyles),
        { p with
          modules := p.modules.insert id output.code
          styles := if hasStyles then p.styles.insert id output.styles else p.styles })

/-- The text that a virtual id stands for. -/
def load (p : Plugin) (id : Text) : Option Text :=
  match VirtualId.ofText? id with
  | none => none
  | some ⟨file, .module⟩ => p.modules.get? file
  | some ⟨file, .stylesheet⟩ => p.styles.get? file

end Plugin

end OneFile.Bundle
