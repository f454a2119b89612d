import OneFile.Proofs.Bundle.VirtualId
import OneFile.Proofs.Text.Lines

/-!
# What a plugin serves after any calls

A bundler calls a plugin any number of times and in any order. What the plugin serves under a
virtual id then depends on what the file was compiled to, by the transforms of this very file
that were answered by a proxy, and on nothing else.

## Main definitions

* `OneFile.Bundle.Call`, `OneFile.Bundle.Plugin.run` — calls, and a plugin after a list of them.
* `OneFile.Bundle.outputs` — what a file was compiled to by a list of calls.
* `OneFile.Bundle.Plugin.kept` — the text that an output leaves behind for a part.

## Main results

* `OneFile.Bundle.Plugin.get?_run` — a store holds what the last output with such a part left.
* `OneFile.Bundle.Plugin.run_serves_modules` — the module of the last output is served.
* `OneFile.Bundle.Plugin.run_serves_stylesheets` — the stylesheet of the last output that has one
  is served, even if the last output of all has none.
-/

namespace OneFile.Bundle

/-! ### Calls -/

/-- What a bundler asks of a plugin. `fresh` is the id to use when one is drawn at random. -/
inductive Call where
  | transform (fresh source id : Text)
  | load (id : Text)
  | resolve (id : Text) (importer : Option Text)
deriving DecidableEq, Repr

/-- What `file` is compiled to by a call: the call is a transform of this file, the file is a
component, and its source compiles. -/
def Call.output? (options : PluginOptions) (file : Text) (call : Call)
    (readers : Readers := .own) : Option CompileOutput :=
  match call with
  | .transform fresh source id =>
    if id = file ∧ options.extension.isSuffixOf id then
      (compile options.compile fresh source readers).toOption
    else none
  | .load _ | .resolve .. => none

variable {readers : Readers}

/-- What a transform compiles its file to. -/
lemma Call.output?_eq_some {options : PluginOptions} {fresh source file id : Text}
    {o : CompileOutput} : (Call.transform fresh source id).output? options file readers = some o ↔
      (id = file ∧ options.extension.isSuffixOf id) ∧
        compile options.compile fresh source readers = .ok o := by
  rw [output?]
  split_ifs with h
  · rw [and_iff_right h]
    cases compile options.compile fresh source readers <;> simp [Except.toOption]
  · exact iff_of_false (by simp) fun h' => h h'.1

/-- What `file` was compiled to by some calls, in order. -/
def outputs (options : PluginOptions) (file : Text) (calls : List Call)
    (readers : Readers := .own) : List CompileOutput :=
  calls.filterMap (·.output? options file readers)

/-- One more call adds what it compiles the file to, if it does. -/
lemma outputs_concat (options : PluginOptions) (file : Text) (calls : List Call) (call : Call) :
    outputs options file (calls ++ [call]) readers =
      outputs options file calls readers ++ (call.output? options file readers).toList := by
  rw [outputs, List.filterMap_append, outputs]
  cases h : call.output? options file readers <;> simp [h]

namespace Plugin

/-- The plugin after a call. Loading and resolving leave nothing behind. -/
def after (p : Plugin) (call : Call) (readers : Readers := .own) : Plugin :=
  match call with
  | .transform fresh source id => (p.transform fresh source id readers).2
  | .load _ | .resolve .. => p

/-- The plugin after some calls. -/
def run (p : Plugin) (calls : List Call) (readers : Readers := .own) : Plugin :=
  calls.foldl (fun p call => p.after call readers) p

/-- A plugin that has not been called yet. -/
def ofOptions (options : PluginOptions) : Plugin := { options }

/-- The store for one part of all files. -/
def store (p : Plugin) : Part → Store
  | .module => p.modules
  | .stylesheet => p.styles

/-- The text that an output leaves behind for a part. There is a stylesheet only if it is not
empty. -/
def kept : Part → CompileOutput → Option Text
  | .module, o => some o.code
  | .stylesheet, o => if o.styles.isEmpty then none else some o.styles

variable {p : Plugin} {options : PluginOptions}

/-! ### One call -/

/-- A transform that compiles its file is answered by a proxy, and leaves the output behind. -/
lemma transform_of_output? {fresh source id : Text} {o : CompileOutput}
    (h : (Call.transform fresh source id).output? p.options id readers = some o) :
    p.transform fresh source id readers = (.proxy (proxyText id (!o.styles.isEmpty)),
      { p with
        modules := p.modules.insert id o.code
        styles := if !o.styles.isEmpty then p.styles.insert id o.styles else p.styles }) := by
  obtain ⟨⟨-, hextension⟩, hcompile⟩ := Call.output?_eq_some.1 h
  simp [transform, hextension, hcompile]

/-- A transform that does not compile its file is not answered by a proxy, and leaves the plugin
as it was. -/
lemma transform_of_output?_eq_none {fresh source id : Text}
    (h : (Call.transform fresh source id).output? p.options id readers = none) :
    (∀ code, (p.transform fresh source id readers).1 ≠ .proxy code) ∧
      (p.transform fresh source id readers).2 = p := by
  simp only [Call.output?, true_and] at h
  unfold transform
  split at h
  · rename_i hextension
    cases hcompile : compile p.options.compile fresh source readers with
    | error e => simp [hextension]
    | ok o => simp [hcompile, Except.toOption] at h
  · rename_i hextension
    simp [hextension]

/-- **A transform is answered by a proxy just if it compiles its file.** -/
lemma exists_proxy_iff {fresh source id : Text} :
    (∃ code, (p.transform fresh source id readers).1 = .proxy code) ↔
      ((Call.transform fresh source id).output? p.options id readers).isSome := by
  cases h : (Call.transform fresh source id).output? p.options id readers with
  | none => simpa using (transform_of_output?_eq_none h).1
  | some o => simp [transform_of_output? h]

/-- The settings of a plugin stay as they are. -/
@[simp] lemma options_after (call : Call) : (p.after call readers).options = p.options := by
  cases call with
  | transform fresh source id =>
    cases h : (Call.transform fresh source id).output? p.options id readers with
    | none => rw [after, (transform_of_output?_eq_none h).2]
    | some o => rw [after, transform_of_output? h]
  | load id => rfl
  | resolve id importer => rfl

/-- **What a store holds after a call**: for the file that was compiled, if any, what its output
leaves behind for the part, and for all others, or if it leaves nothing, what it held before. -/
lemma get?_after (call : Call) (part : Part) (file : Text) :
    ((p.after call readers).store part).get? file =
      ((call.output? p.options file readers).bind (kept part)).or ((p.store part).get? file) := by
  cases call with
  | load id => rfl
  | resolve id importer => rfl
  | transform fresh source id =>
    by_cases hid : id = file
    · subst hid
      cases h : (Call.transform fresh source id).output? p.options id readers with
      | none => simp [after, (transform_of_output?_eq_none h).2]
      | some o =>
        cases part with
        | module => simp [after, transform_of_output? h, store, kept, Store.get?_insert]
        | stylesheet =>
          by_cases hstyles : o.styles.isEmpty
          · simp [after, transform_of_output? h, store, kept, hstyles]
          · simp [after, transform_of_output? h, store, kept, hstyles, Store.get?_insert]
    · have hnone : (Call.transform fresh source id).output? p.options file readers = none := by
        simp [Call.output?, hid]
      rw [hnone, Option.bind_none, Option.none_or]
      cases h : (Call.transform fresh source id).output? p.options id readers with
      | none => rw [after, (transform_of_output?_eq_none h).2]
      | some o =>
        have hne : ¬ file = id := fun h => hid h.symm
        cases part with
        | module => simp [after, transform_of_output? h, store, Store.get?_insert, hne]
        | stylesheet =>
          by_cases hstyles : o.styles.isEmpty
          · simp [after, transform_of_output? h, store, hstyles]
          · simp [after, transform_of_output? h, store, hstyles, Store.get?_insert, hne]

/-! ### Any calls -/

/-- The settings of a plugin stay as they are. -/
@[simp] lemma options_run (calls : List Call) : (p.run calls readers).options = p.options := by
  induction calls using List.reverseRecOn with
  | nil => rfl
  | append_singleton calls call ih => rw [run, List.foldl_concat, options_after, ← ih, run]

/-- **A store holds what was left behind last.**

**Proof sketch.** Induction on the calls from their end, by `get?_after`. -/
theorem get?_run (calls : List Call) (part : Part) (file : Text) :
    ((p.run calls readers).store part).get? file =
      ((outputs p.options file calls readers).filterMap (kept part)).getLast?.or
        ((p.store part).get? file) := by
  induction calls using List.reverseRecOn with
  | nil => simp [run, outputs]
  | append_singleton calls call ih =>
    have hoptions : (calls.foldl (fun p call => p.after call readers) p).options = p.options :=
      options_run calls
    rw [run] at ih
    rw [run, List.foldl_concat, get?_after, hoptions, ih, outputs_concat, List.filterMap_append]
    cases houtput : call.output? p.options file readers with
    | none => simp
    | some o =>
      cases hkept : kept part o with
      | none => simp [hkept]
      | some text => simp [hkept]

/-- What a plugin serves under a virtual id is what its store holds for the file. -/
lemma load_toText (v : VirtualId) :
    p.load v.toText = if VirtualId.isFileId v.file then (p.store v.part).get? v.file else none := by
  obtain ⟨file, part⟩ := v
  rw [load, VirtualId.ofText?_toText]
  by_cases hfile : VirtualId.isFileId file
  · rw [if_pos hfile, if_pos hfile]
    cases part <;> rfl
  · rw [if_neg hfile, if_neg hfile]

end Plugin

/-! ### The proxy -/

/-- A line that ends in a virtual id between quotes. -/
def quoting (before : Text) (v : VirtualId) : Text := before ++ v.toText ++ "\";".toList

/-- The line that takes over what the module of a file exports, beside its default. -/
def moduleExport (file : Text) : Text := quoting "export * from \"".toList ⟨file, .module⟩

/-- The line that takes over the default of the module of a file. -/
def defaultExport (file : Text) : Text :=
  quoting "export \x7b default \x7d from \"".toList ⟨file, .module⟩

/-- The line that imports the stylesheet of a file. -/
def stylesheetImport (file : Text) : Text := quoting "import \"".toList ⟨file, .stylesheet⟩

/-- A virtual id between quotes is on one line if its file id is. -/
lemma notMem_quoting {before : Text} {v : VirtualId} (hbefore : '\n' ∉ before)
    (hfile : '\n' ∉ v.file) : '\n' ∉ quoting before v := by
  have hmarker : '\n' ∉ marker := by decide +kernel
  have hextension : '\n' ∉ v.part.extension := by cases v.part <;> decide +kernel
  have hclose : '\n' ∉ "\";".toList := by decide +kernel
  have hid : '\n' ∉ v.toText :=
    List.not_mem_append (List.not_mem_append hmarker hfile) hextension
  exact List.not_mem_append (List.not_mem_append hbefore hid) hclose

/-- A line is told from others by how it starts. -/
lemma head?_quoting {before : Text} {c : Char} (v : VirtualId) (h : before.head? = some c) :
    (quoting before v).head? = some c := by
  cases before with
  | nil => simp at h
  | cons d before => exact h

/-- A proxy by its lines. -/
lemma proxyText_eq (file : Text) (hasStyles : Bool) :
    proxyText file hasStyles = moduleExport file ++ '\n' :: (defaultExport file ++ '\n' ::
      if hasStyles then stylesheetImport file ++ ['\n'] else []) := by
  have hline : ∀ (before : Text) (v : VirtualId),
      before ++ v.toText ++ "\";\n".toList = quoting before v ++ ['\n'] := by
    intro before v
    have hclose : "\";\n".toList = "\";".toList ++ ['\n'] := by decide +kernel
    rw [hclose, quoting, List.append_assoc _ _ ['\n']]
  have hregroup : ∀ a b c d e f g : Text,
      a ++ b ++ c ++ d ++ e ++ f ++ g = a ++ b ++ c ++ (d ++ e ++ f ++ g) := by
    intro a b c d e f g
    simp only [List.append_assoc]
  unfold proxyText
  dsimp only
  rw [hregroup, hline, hline, hline, List.append_assoc, List.append_assoc]
  rfl

/-- The lines of a proxy, for a file id on one line. -/
lemma lines_proxyText {file : Text} (hfile : '\n' ∉ file) (hasStyles : Bool) :
    (proxyText file hasStyles).lines =
      moduleExport file :: defaultExport file ::
        if hasStyles then [stylesheetImport file, []] else [[]] := by
  have hmodule : '\n' ∉ moduleExport file := notMem_quoting (by decide +kernel) hfile
  have hdefault : '\n' ∉ defaultExport file := notMem_quoting (by decide +kernel) hfile
  have hstyles : '\n' ∉ stylesheetImport file := notMem_quoting (by decide +kernel) hfile
  rw [proxyText_eq, Text.lines_append_cons hmodule, Text.lines_append_cons hdefault]
  cases hasStyles with
  | false => rfl
  | true => rw [if_pos rfl, if_pos rfl, Text.lines_append_cons hstyles, Text.lines]

/-- **A proxy imports a stylesheet just if there is one.** -/
lemma stylesheetImport_mem_lines {file : Text} (hfile : '\n' ∉ file) (hasStyles : Bool) :
    stylesheetImport file ∈ (proxyText file hasStyles).lines ↔ hasStyles = true := by
  have hhead : (stylesheetImport file).head? = some 'i' := head?_quoting _ (by decide +kernel)
  have hexport : (moduleExport file).head? = some 'e' := head?_quoting _ (by decide +kernel)
  have hdefault : (defaultExport file).head? = some 'e' := head?_quoting _ (by decide +kernel)
  have hother : ∀ line : Text, line.head? ≠ some 'i' → stylesheetImport file ≠ line := by
    rintro line hline rfl
    exact hline hhead
  have hne : stylesheetImport file ≠ moduleExport file := hother _ (by rw [hexport]; decide)
  have hne' : stylesheetImport file ≠ defaultExport file := hother _ (by rw [hdefault]; decide)
  have hnil : stylesheetImport file ≠ [] := hother _ (by decide)
  rw [lines_proxyText hfile]
  cases hasStyles with
  | false => simp [hne, hne', hnil]
  | true => simp

/-! ### Modules -/

namespace Plugin

/-- **A plugin after some calls serves modules**: what it answers to any later call is settled by
the transforms that were answered by a proxy. -/
structure ServesModules (readers : Readers) (options : PluginOptions) (calls : List Call)
    (p : Plugin) : Prop where
  /-- What a file is compiled to counts just if the transform is answered by a proxy. -/
  proxy_iff : ∀ fresh source id, (∃ code, (p.transform fresh source id readers).1 = .proxy code) ↔
    ((Call.transform fresh source id).output? options id readers).isSome
  /-- The module of a file is what it was compiled to last. -/
  load_module : ∀ file, VirtualId.isFileId file = true →
    p.load (VirtualId.mk file .module).toText =
      (outputs options file calls readers).getLast?.map CompileOutput.code
  /-- A call that is no transform, or is not answered by a proxy, changes no later answer. -/
  idle : ∀ call, (∀ fresh source id, call = .transform fresh source id →
      ∀ code, (p.transform fresh source id readers).1 ≠ .proxy code) →
    ∀ later id, ((p.after call readers).run later readers).load id = (p.run later readers).load id
  /-- A transform changes no answer for another file. -/
  apart : ∀ fresh source id other part, other ≠ id →
    (p.after (.transform fresh source id) readers).load (VirtualId.mk other part).toText =
      p.load (VirtualId.mk other part).toText
  /-- A proxy imports a stylesheet just if the file has one, which is then served. -/
  stylesheet : ∀ fresh source file code, VirtualId.isFileId file = true →
    (p.transform fresh source file readers).1 = .proxy code →
      ∃ o, compile options.compile fresh source readers = .ok o ∧
        (stylesheetImport file ∈ code.lines ↔ o.styles ≠ []) ∧
        (o.styles ≠ [] → (p.after (.transform fresh source file) readers).load
          (VirtualId.mk file .stylesheet).toText = some o.styles)

/-- **The module of the last output is served**, after any calls, and nothing but a transform that
is answered by a proxy changes an answer, namely one for its own file.

**Proof sketch.** What a plugin serves is what its stores hold (`load_toText`), the stores hold what
was left behind last (`get?_run`), and every output leaves a module behind. -/
theorem run_serves_modules (readers : Readers) (options : PluginOptions) (calls : List Call) :
    ServesModules readers options calls ((ofOptions options).run calls readers) := by
  have hoptions : ((ofOptions options).run calls readers).options = options := options_run calls
  refine ⟨fun fresh source id => ?_, fun file hfile => ?_, fun call hcall later id => ?_,
    fun fresh source id other part hother => ?_, fun fresh source file code hfile hcode => ?_⟩
  · rw [exists_proxy_iff, hoptions]
  · have hkept : (outputs options file calls readers).filterMap (kept .module) =
        (outputs options file calls readers).map CompileOutput.code :=
      congrFun List.filterMap_eq_map (outputs options file calls readers)
    have hget : (((ofOptions options).run calls readers).store .module).get? file =
        ((outputs options file calls readers).filterMap (kept .module)).getLast?.or
          (((ofOptions options).store .module).get? file) := get?_run calls .module file
    rw [load_toText, if_pos hfile, hget]
    have hempty : ((ofOptions options).store .module).get? file = none := rfl
    rw [hempty, Option.or_none]
    exact (congrArg List.getLast? hkept).trans List.getLast?_map
  · suffices h : ((ofOptions options).run calls readers).after call readers =
        (ofOptions options).run calls readers by
      rw [h]
    cases call with
    | transform fresh source id =>
      refine (transform_of_output?_eq_none ?_).2
      have hnone := hcall fresh source id rfl
      rw [← not_exists, exists_proxy_iff] at hnone
      simpa using hnone
    | load id => rfl
    | resolve id importer => rfl
  · rw [load_toText, load_toText, get?_after]
    have hnone : (Call.transform fresh source id).output?
        ((ofOptions options).run calls readers).options other readers = none := by
      simp [Call.output?, hother.symm]
    rw [hnone, Option.bind_none, Option.none_or]
  · obtain ⟨o, ho⟩ := Option.isSome_iff_exists.1 (exists_proxy_iff.1 ⟨code, hcode⟩)
    have hline : '\n' ∉ file := by
      simp only [VirtualId.isFileId, Bool.and_eq_true, Bool.not_eq_true'] at hfile
      simpa using hfile.2
    obtain rfl : proxyText file (!o.styles.isEmpty) = code := by
      simpa [transform_of_output? ho] using hcode
    refine ⟨o, (Call.output?_eq_some.1 (hoptions ▸ ho)).2, ?_, fun hstyles => ?_⟩
    · rw [stylesheetImport_mem_lines hline]
      simp
    · rw [load_toText, if_pos hfile, get?_after, ho]
      simp [kept, hstyles]

/-! ### Stylesheets -/

/-- The stylesheet that belongs to the module of a file: that of the last output, if it is not
empty. -/
def latestStyles (options : PluginOptions) (file : Text) (calls : List Call)
    (readers : Readers := .own) : Option Text :=
  (outputs options file calls readers).getLast?.bind (kept .stylesheet)

/-- **The stylesheet of the last output that has one is served.** It is the one that belongs to the
module, except if the file was compiled to a stylesheet once and has none any more.

**Proof sketch.** The stores hold what was left behind last (`get?_run`). An output without a
stylesheet leaves none behind, and does not take away an earlier one. -/
theorem run_serves_stylesheets (readers : Readers) (options : PluginOptions) (calls : List Call)
    {file : Text}     (hfile : VirtualId.isFileId file = true) :
    ((ofOptions options).run calls readers).load (VirtualId.mk file .stylesheet).toText =
        ((outputs options file calls readers).filterMap (kept .stylesheet)).getLast? ∧
      (((ofOptions options).run calls readers).load (VirtualId.mk file .stylesheet).toText ≠
          latestStyles options file calls readers ↔
        (∃ last, (outputs options file calls readers).getLast? = some last ∧ last.styles = []) ∧
          ∃ o ∈ outputs options file calls readers, o.styles ≠ []) := by
  have hempty : ((ofOptions options).store .stylesheet).get? file = none := rfl
  have hload : ((ofOptions options).run calls readers).load (VirtualId.mk file .stylesheet).toText =
      ((outputs options file calls readers).filterMap (kept .stylesheet)).getLast? := by
    rw [load_toText, if_pos hfile, get?_run, hempty, Option.or_none]
    rfl
  refine ⟨hload, ?_⟩
  rw [hload, latestStyles]
  cases hlast : outputs options file calls readers using List.reverseRecOn with
  | nil => simp
  | append_singleton before last _ =>
    by_cases hstyles : last.styles = []
    · have hkept : kept .stylesheet last = none := by simp [kept, hstyles]
      have hsome : ((before.filterMap (kept .stylesheet)).getLast? ≠ none) ↔
          ∃ o ∈ before, o.styles ≠ [] := by
        simp [kept]
      simpa [hkept, hstyles] using hsome
    · have hkept : kept .stylesheet last = some last.styles := by simp [kept, hstyles]
      simp [hkept, hstyles]

/-- A component whose stylesheet changes. -/
def changesStyles : List Call :=
  [.transform [] "<style>a</style>".toList "f.sfc".toList,
    .transform [] "<style>b</style>".toList "f.sfc".toList]

/-- A stylesheet that has changed is served as it is now. -/
theorem run_serves_changed_stylesheet : VirtualId.isFileId "f.sfc".toList = true ∧
    ((ofOptions {}).run changesStyles).load
      (VirtualId.mk "f.sfc".toList .stylesheet).toText = some "b\n".toList := by
  have hfile : VirtualId.isFileId "f.sfc".toList = true := by decide +kernel
  have hlast : ((outputs {} "f.sfc".toList changesStyles).filterMap (kept .stylesheet)).getLast? =
      some "b\n".toList := by decide +kernel
  exact ⟨hfile, (run_serves_stylesheets .own {} changesStyles hfile).1.trans hlast⟩

/-- A component with a stylesheet that loses it. -/
def losesStyles : List Call :=
  [.transform [] "<style>a</style>".toList "f.sfc".toList, .transform [] [] "f.sfc".toList]

/-- The stylesheet of a component that has none any more is still served. -/
theorem run_serves_lost_stylesheet : latestStyles {} "f.sfc".toList losesStyles = none ∧
    ((ofOptions {}).run losesStyles).load "virtual:sfcf.sfc.css".toList = some "a\n".toList := by
  decide +kernel

end Plugin

end OneFile.Bundle
