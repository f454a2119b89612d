import OneFile.Component.Json
import OneFile.Bundle.Plugin

/-!
# Plugin settings in JSON

## Main definitions

* `OneFile.Bundle.PluginOptions.toJson`, `OneFile.Bundle.PluginOptions.ofJson?`
-/

namespace OneFile.Bundle.PluginOptions

/-- Settings as a record, with both of them said. -/
def toJson (o : PluginOptions) : Json :=
  .ofMembers [("extension", .string o.extension), ("compile", o.compile.toJson)]

/-- Reads settings; both may be missing. -/
def ofJson? (j : Json) : Option PluginOptions := do
  match ← j.fields? ["extension", "compile"] with
  | [extension, compile] =>
    return ⟨← Json.optional ".sfc".toList Json.string? extension,
      ← Json.optional {} CompileOptions.ofJson? compile⟩
  | _ => none

end OneFile.Bundle.PluginOptions
