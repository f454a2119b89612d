import OneFile.Proofs.Bundle.Serving
import OneFile.Proofs.Script.StringLiteral

/-!
# What a proxy names

A proxy is a script, and the virtual ids in it are string literals. A bundler reads their values,
and asks the plugin to resolve and to load these. The ids are put between the quotes as they are,
without escapes. So a file whose id has a backslash, a quote or a line end in it is kept under
another id than the one that its proxy names. A file with an empty id is named as it is kept, but
is not served, since no virtual id is read without a file id.

## Main definitions

* `OneFile.Bundle.namedParts` — the parts that a proxy names, in order.
* `OneFile.Bundle.NamesServed` — what a proxy names is what the plugin serves.

## Main results

* `OneFile.Bundle.literals_proxyText` — the specifiers of a proxy read back.
* `OneFile.Bundle.namesServed_iff` — the file ids of which the proxy names what is served.
-/

namespace OneFile.Bundle

open Script (isPlain literals units)

/-! ### Specifiers -/

/-- The parts that a proxy names: the module, the module again for its default, and the stylesheet
if there is one. -/
def namedParts (hasStyles : Bool) : List Part :=
  [.module, .module] ++ if hasStyles then [.stylesheet] else []

/-- A virtual id is plain if its file id is. -/
lemma all_isPlain_toText (file : Text) (part : Part) :
    (VirtualId.mk file part).toText.all isPlain = file.all isPlain := by
  have hmarker : marker.all isPlain = true := by decide +kernel
  have hextension : part.extension.all isPlain = true := by cases part <;> decide +kernel
  rw [VirtualId.toText, List.all_append, List.all_append, hmarker, hextension, Bool.true_and,
    Bool.and_true]

/-- A virtual id does not end in a backslash. -/
lemma getLast?_toText_ne (v : VirtualId) : v.toText.getLast? ≠ some '\\' := by
  have hextension :
      v.part.extension.getLast? = some 'x' ∨ v.part.extension.getLast? = some 's' := by
    cases v.part with
    | module => exact .inl (by decide +kernel)
    | stylesheet => exact .inr (by decide +kernel)
  rw [VirtualId.toText, List.getLast?_append]
  obtain h | h := hextension <;> rw [h, Option.some_or] <;> decide

/-- A line that names a virtual id, by what its literal starts after. -/
lemma quoting_append (before : Text) (v : VirtualId) (s : Text) :
    quoting (before ++ ['"']) v ++ s = before ++ '"' :: (v.toText ++ '"' :: ([';'] ++ s)) := by
  have hclose : "\";".toList = ['"', ';'] := by decide +kernel
  simp [quoting, hclose]

/-- **A line that names a plain virtual id** adds it to the values. -/
lemma literals_quoting {before : Text} (hbefore : '"' ∉ before) {v : VirtualId}
    (hv : v.toText.all isPlain = true) (s : Text) :
    literals (quoting (before ++ ['"']) v ++ '\n' :: s) =
      (literals s).map (units v.toText :: ·) := by
  have hbetween : '"' ∉ [';', '\n'] := by decide
  rw [quoting_append, Script.literals_append hbefore, Script.literals_of_plain hv]
  exact congrArg _ (Script.literals_append hbetween s)

/-- The first line of a proxy, by what its literal starts after. -/
lemma moduleExport_eq (file : Text) : moduleExport file =
    quoting ("export * from ".toList ++ ['"']) ⟨file, .module⟩ := by
  have hopen : "export * from \"".toList = "export * from ".toList ++ ['"'] := by decide +kernel
  rw [moduleExport, hopen]

/-- The second line of a proxy, by what its literal starts after. -/
lemma defaultExport_eq (file : Text) : defaultExport file =
    quoting ("export \x7b default \x7d from ".toList ++ ['"']) ⟨file, .module⟩ := by
  have hopen : "export \x7b default \x7d from \"".toList =
      "export \x7b default \x7d from ".toList ++ ['"'] := by decide +kernel
  rw [defaultExport, hopen]

/-- The line of a proxy that imports a stylesheet, by what its literal starts after. -/
lemma stylesheetImport_eq (file : Text) : stylesheetImport file =
    quoting ("import ".toList ++ ['"']) ⟨file, .stylesheet⟩ := by
  have hopen : "import \"".toList = "import ".toList ++ ['"'] := by decide +kernel
  rw [stylesheetImport, hopen]

/-- The units of the virtual ids that a proxy names. -/
def specifiers (file : Text) (hasStyles : Bool) : List (List Nat) :=
  (namedParts hasStyles).map fun part => units (VirtualId.mk file part).toText

/-- **The specifiers of a proxy are read back as the virtual ids that are meant**, just if the file
id is plain.

**Proof sketch.** Plain ids are read back line by line (`literals_quoting`). Of the others the
first literal is not (`Script.plain_of_literals`), for a virtual id does not end in a backslash. -/
theorem literals_proxyText (file : Text) (hasStyles : Bool) :
    literals (proxyText file hasStyles) = some (specifiers file hasStyles) ↔
      file.all isPlain = true := by
  rw [proxyText_eq, moduleExport_eq]
  constructor
  · intro h
    rw [quoting_append, Script.literals_append (by decide +kernel)] at h
    rw [← all_isPlain_toText file .module]
    exact Script.plain_of_literals (getLast?_toText_ne _) h
  · intro hfile
    have hplain : ∀ part, (VirtualId.mk file part).toText.all isPlain = true := fun part =>
      (all_isPlain_toText file part).trans hfile
    rw [literals_quoting (by decide +kernel) (hplain _), defaultExport_eq,
      literals_quoting (by decide +kernel) (hplain _)]
    cases hasStyles with
    | false => rfl
    | true =>
      rw [if_pos rfl, stylesheetImport_eq, literals_quoting (by decide +kernel) (hplain _)]
      rfl

/-! ### What is served -/

/-- **What a proxy names is what the plugin serves**: its specifiers are the virtual ids of the
parts of the file, which resolve to themselves and stand for what the file was compiled to. -/
structure NamesServed (p : Plugin) (file code : Text) (o : CompileOutput) : Prop where
  specifiers : literals code = some (specifiers file !o.styles.isEmpty)
  resolved : ∀ part ∈ namedParts !o.styles.isEmpty, ∀ importer,
    resolve? (VirtualId.mk file part).toText importer = some (VirtualId.mk file part).toText
  served : ∀ part ∈ namedParts !o.styles.isEmpty,
    p.load (VirtualId.mk file part).toText = Plugin.kept part o

/-- A virtual id resolves to itself. -/
lemma resolve?_toText (v : VirtualId) (importer : Option Text) :
    resolve? v.toText importer = some v.toText := by
  have hmarker : marker.isPrefixOf v.toText = true := by
    rw [List.isPrefixOf_iff_prefix, VirtualId.toText, List.append_assoc]
    exact List.prefix_append ..
  rw [resolve?, if_pos hmarker]

/-- An output leaves a text behind for every part that its proxy names. -/
lemma kept_isSome {part : Part} {o : CompileOutput}
    (h : part ∈ namedParts !o.styles.isEmpty) : (Plugin.kept part o).isSome := by
  cases part with
  | module => rfl
  | stylesheet =>
    cases hstyles : o.styles.isEmpty with
    | false => simp [Plugin.kept, hstyles]
    | true => simp [namedParts, hstyles] at h

/-- **A proxy names what the plugin serves just if the file id is plain and not empty**: no quote,
no backslash and no line end.

**Proof sketch.** The specifiers are read back just if the file id is plain (`literals_proxyText`).
Virtual ids always resolve to themselves (`resolve?_toText`), and are served if the file id is not
empty and on one line (`Plugin.load_toText`). -/
theorem namesServed_iff {readers : Readers} {p p' : Plugin} {fresh source file code : Text}
    (h : p.transform fresh source file readers = (.proxy code, p')) :
    ∃ o, compile p.options.compile fresh source readers = .ok o ∧
      (NamesServed p' file code o ↔ file ≠ [] ∧ file.all isPlain = true) := by
  have hproxy : ∃ code, (p.transform fresh source file readers).1 = .proxy code :=
    ⟨code, congrArg Prod.fst h⟩
  obtain ⟨o, ho⟩ := Option.isSome_iff_exists.1 (Plugin.exists_proxy_iff.1 hproxy)
  obtain ⟨hcode, hp'⟩ := Prod.mk.inj ((Plugin.transform_of_output? ho).symm.trans h)
  obtain rfl : proxyText file (!o.styles.isEmpty) = code := Transformed.proxy.inj hcode
  have hload : ∀ part, p'.load (VirtualId.mk file part).toText =
      if VirtualId.isFileId file then
        (Plugin.kept part o).or ((p.store part).get? file) else none := by
    intro part
    have hafter : p' = p.after (.transform fresh source file) readers :=
      (congrArg Prod.snd h).symm
    rw [Plugin.load_toText, hafter, Plugin.get?_after, ho, Option.bind_some]
  refine ⟨o, (Call.output?_eq_some.1 ho).2, ⟨fun hnames => ?_, ?_⟩⟩
  · have hserved := hnames.served .module (by simp [namedParts])
    refine ⟨?_, (literals_proxyText file _).1 hnames.specifiers⟩
    rintro rfl
    rw [hload] at hserved
    cases hserved
  · rintro ⟨hne, hfile⟩
    have hfileId : VirtualId.isFileId file = true := by
      have hline : '\n' ∉ file := fun hmem =>
        absurd (List.all_eq_true.1 hfile _ hmem) (by decide)
      simp [VirtualId.isFileId, hne, hline]
    refine ⟨(literals_proxyText file _).2 hfile, fun _ _ => resolve?_toText _, fun part hpart => ?_⟩
    rw [hload, if_pos hfileId]
    obtain ⟨text, htext⟩ := Option.isSome_iff_exists.1 (kept_isSome hpart)
    rw [htext, Option.some_or]

/-- A component with a stylesheet, and an id that is an ordinary path. -/
theorem namesServed_path : ∃ code p' o,
    ({} : Plugin).transform [] "<style>a</style>".toList "/src/App.sfc".toList =
        (.proxy code, p') ∧
      o.styles = "a\n".toList ∧ NamesServed p' "/src/App.sfc".toList code o := by
  obtain ⟨code, hcode⟩ : ∃ code,
      (({} : Plugin).transform [] "<style>a</style>".toList "/src/App.sfc".toList).1 =
        .proxy code := ⟨proxyText "/src/App.sfc".toList true, by decide +kernel⟩
  have h : ({} : Plugin).transform [] "<style>a</style>".toList "/src/App.sfc".toList =
      (.proxy code, _) := Prod.ext hcode rfl
  obtain ⟨o, ho, hiff⟩ := namesServed_iff h
  have hstyles : (compile {} [] "<style>a</style>".toList).toOption.map CompileOutput.styles =
      some "a\n".toList := by decide +kernel
  have hcompile : compile {} [] "<style>a</style>".toList = .ok o := ho
  rw [hcompile] at hstyles
  exact ⟨code, _, o, h, Option.some.inj hstyles, hiff.2 (by decide +kernel)⟩

/-- **Backslashes are lost**: the proxy of a path with backslashes names another file, which is not
served. -/
theorem proxy_loses_backslashes :
    (({} : Plugin).transform [] "<p>hi</p>".toList "C:\\src\\App.sfc".toList).1 =
        .proxy (proxyText "C:\\src\\App.sfc".toList false) ∧
      literals (proxyText "C:\\src\\App.sfc".toList false) =
        some (specifiers "C:srcApp.sfc".toList false) ∧
      specifiers "C:srcApp.sfc".toList false ≠ specifiers "C:\\src\\App.sfc".toList false ∧
      (({} : Plugin).transform [] "<p>hi</p>".toList "C:\\src\\App.sfc".toList).2.load
        (VirtualId.mk "C:srcApp.sfc".toList .module).toText = none := by
  decide +kernel

end OneFile.Bundle
