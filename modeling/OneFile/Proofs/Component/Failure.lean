import OneFile.Proofs.Component.Hoisting

/-!
# When compiling fails

Markup that cannot be read, a script that cannot be split and, where styles are scoped, a style
that cannot be rewritten make a compilation fail. Of several such faults one is reported, in the
words of whoever found it.

## Main definitions

* `OneFile.FirstOf` — the first member of a list with a property.
* `OneFile.scriptFault?`, `OneFile.styleFault?` — what is wrong with a top-level node.
* `OneFile.RejectedScript`, `OneFile.RejectedStyle` — top-level nodes that make a compilation fail.

## Main results

* `OneFile.topStatements_of_first` — of several rejected scripts the first one is reported.
* `OneFile.stylePieces_of_first` — and so it is with styles.
* `OneFile.compile_fails_first` — when a compilation fails, and with which error.
-/

namespace OneFile

open Markup

/-! ### Firsts -/

/-- **The first member of a list with a property**: none of those before it has it. -/
def FirstOf {α : Type} (P : α → Prop) (l : List α) (a : α) : Prop :=
  ∃ before after, l = before ++ a :: after ∧ (∀ b ∈ before, ¬ P b) ∧ P a

namespace FirstOf

variable {α β : Type} {P : α → Prop} {l : List α} {a b : α}

/-- A member with the property at the head of a list is the first one. -/
lemma head (h : P a) : FirstOf P (a :: l) a := ⟨[], l, rfl, by simp, h⟩

/-- The first member of a list is still the first one after a member without the property. -/
lemma cons (hb : ¬ P b) (h : FirstOf P l a) : FirstOf P (b :: l) a := by
  obtain ⟨before, after, rfl, hbefore, ha⟩ := h
  refine ⟨b :: before, after, rfl, fun c hc => ?_, ha⟩
  rcases List.mem_cons.1 hc with rfl | hc
  · exact hb
  · exact hbefore c hc

/-- The first member of a list is its head, or the first one after a head without the property. -/
lemma of_cons (h : FirstOf P (b :: l) a) : (P b ∧ b = a) ∨ (¬ P b ∧ FirstOf P l a) := by
  obtain ⟨before, after, heq, hbefore, ha⟩ := h
  cases before with
  | nil =>
    obtain ⟨rfl, rfl⟩ : b = a ∧ l = after := by simpa using heq
    exact .inl ⟨ha, rfl⟩
  | cons c before =>
    obtain ⟨rfl, rfl⟩ : b = c ∧ l = before ++ a :: after := by simpa using heq
    exact .inr ⟨hbefore b (by simp),
      before, after, rfl, fun d hd => hbefore d (List.mem_cons_of_mem _ hd), ha⟩

/-- If some member has the property, one is the first. -/
lemma of_exists (h : ∃ b ∈ l, P b) : ∃ a, FirstOf P l a := by
  induction l with
  | nil => simp at h
  | cons c l ih =>
    by_cases hc : P c
    · exact ⟨c, .head hc⟩
    · obtain ⟨b, hb, hP⟩ := h
      have hmem : b ∈ l := by
        rcases List.mem_cons.1 hb with rfl | hb
        · exact absurd hP hc
        · exact hb
      obtain ⟨a, ha⟩ := ih ⟨b, hmem, hP⟩
      exact ⟨a, ha.cons hc⟩

/-- The first member of a list is in it and has the property. -/
lemma mem (h : FirstOf P l a) : a ∈ l ∧ P a := by
  obtain ⟨before, after, rfl, -, ha⟩ := h
  exact ⟨by simp, ha⟩

/-- What is picked from the first member of a list comes first among what is picked from all. -/
lemma filterMap {f : α → Option β} {Q : β → Prop}
    (h : FirstOf (fun a => ∃ b ∈ f a, Q b) l a) : ∃ b ∈ f a, FirstOf Q (l.filterMap f) b := by
  obtain ⟨before, after, rfl, hbefore, b, hb, hQ⟩ := h
  refine ⟨b, hb, before.filterMap f, after.filterMap f, ?_, fun c hc hQ => ?_, hQ⟩
  · rw [List.filterMap_append, List.filterMap_cons_some hb]
  · obtain ⟨a, ha, hc⟩ := List.mem_filterMap.1 hc
    exact hbefore a ha ⟨c, hc, hQ⟩

end FirstOf

/-! ### Reading blocks in a row -/

/-- What is read from some blocks, put together; the first block that cannot be read ends it. -/
def readEach {α β : Type} (read : α → Except CompileError (List β)) :
    List α → Except CompileError (List β)
  | [] => .ok []
  | a :: l =>
    match read a with
    | .error e => .error e
    | .ok b =>
      match readEach read l with
      | .error e => .error e
      | .ok rest => .ok (b ++ rest)

/-- **Blocks in a row fail with the error of the first one that fails.** -/
lemma readEach_eq_error_iff {α β : Type} {read : α → Except CompileError (List β)} {l : List α}
    {e : CompileError} :
    readEach read l = .error e ↔
      ∃ a, FirstOf (fun a => ∃ e, read a = .error e) l a ∧ read a = .error e := by
  induction l with
  | nil =>
    refine ⟨fun h => by simp [readEach] at h, ?_⟩
    rintro ⟨a, h, -⟩
    exact absurd h.mem.1 (List.not_mem_nil)
  | cons b l ih =>
    cases hread : read b with
    | error e' =>
      simp only [readEach, hread, Except.error.injEq]
      constructor
      · rintro rfl
        exact ⟨b, .head ⟨e', hread⟩, hread⟩
      · rintro ⟨a, h, ha⟩
        rcases h.of_cons with ⟨-, rfl⟩ | ⟨hnone, -⟩
        · exact Except.error.inj (hread.symm.trans ha)
        · exact absurd ⟨e', hread⟩ hnone
    | ok c =>
      have hb : ¬ ∃ e, read b = .error e := by simp [hread]
      have hrest : readEach read (b :: l) = .error e ↔ readEach read l = .error e := by
        simp only [readEach, hread]
        cases readEach read l with
        | error e' => simp
        | ok rest => simp
      rw [hrest, ih]
      constructor
      · rintro ⟨a, h, ha⟩
        exact ⟨a, h.cons hb, ha⟩
      · rintro ⟨a, h, ha⟩
        rcases h.of_cons with ⟨hfails, -⟩ | ⟨-, hl⟩
        · exact absurd hfails hb
        · exact ⟨a, hl, ha⟩

/-! ### Rejected blocks -/

/-- The diagnostic of something that failed. -/
def diagnostic? {α : Type} : Except Text α → Option Text
  | .error message => some message
  | .ok _ => none

/-- What is wrong with the content of a script, if it cannot be split into statements. -/
def ScriptBlock.fault? (readers : Readers) (source : Text) (block : ScriptBlock) : Option Text :=
  block.element.contentSpan?.bind fun content =>
    diagnostic? (readers.statements (content.slice source))

/-- What is wrong with the content of a style, if it cannot be scoped. -/
def contentFault? (readers : Readers) (source id : Text) (style : Element) : Option Text :=
  style.contentSpan?.bind fun content => diagnostic? (readers.style id (content.slice source))

/-- What is wrong with a script among the nodes of a component. -/
def scriptFault? (readers : Readers) (source : Text) (node : Node) : Option Text :=
  (scriptBlock? node).bind (ScriptBlock.fault? readers source)

/-- What is wrong with a style among the nodes of a component. -/
def styleFault? (readers : Readers) (source id : Text) (node : Node) : Option Text :=
  (styleBlock? node).bind (contentFault? readers source id)

/-- **A rejected script** among the nodes of a component. -/
def RejectedScript (readers : Readers) (source : Text) (node : Node) : Prop :=
  (scriptFault? readers source node).isSome

/-- **A rejected style** among the nodes of a component. -/
def RejectedStyle (readers : Readers) (source id : Text) (node : Node) : Prop :=
  (styleFault? readers source id node).isSome

/-- Whether a script is rejected. -/
instance (readers : Readers) (source : Text) : DecidablePred (RejectedScript readers source) :=
  fun node => inferInstanceAs (Decidable ((scriptFault? readers source node).isSome = true))

/-- Whether a style is rejected. -/
instance (readers : Readers) (source id : Text) : DecidablePred (RejectedStyle readers source id) :=
  fun node => inferInstanceAs (Decidable ((styleFault? readers source id node).isSome = true))

variable {readers : Readers} {source id : Text} {e : CompileError}

/-- **A script fails with what its reader says about it.** -/
lemma ScriptBlock.topStatements_eq_error_iff {block : ScriptBlock} :
    block.topStatements source readers = .error e ↔
      ∃ message ∈ block.fault? readers source, e = .script block.element.span message := by
  unfold ScriptBlock.topStatements ScriptBlock.statements ScriptBlock.fault?
  cases block.element.contentSpan? with
  | none => simp
  | some content =>
    cases hread : readers.statements (content.slice source) with
    | error message => simp [diagnostic?, hread, eq_comm]
    | ok statements => simp [diagnostic?, hread]

/-- The pieces of a style, as a list. -/
def stylePieceList (readers : Readers) (source : Text) (scopeId : Option Text) (style : Element) :
    Except CompileError (List Piece) :=
  (stylePiece source scopeId style readers).map Option.toList

/-- **A style fails with what its reader says about it**, if it is to be scoped. -/
lemma stylePieceList_eq_error_iff {scopeId : Option Text} {style : Element} :
    stylePieceList readers source scopeId style = .error e ↔
      ∃ message ∈ scopeId.bind (contentFault? readers source · style),
        e = .style style.span message := by
  unfold stylePieceList stylePiece contentFault?
  cases style.contentSpan? with
  | none => cases scopeId <;> simp [Except.map]
  | some content =>
    cases scopeId with
    | none => simp [Except.map]
    | some id =>
      cases hscope : readers.style id (content.slice source) with
      | error message => simp [Except.map, diagnostic?, hscope, eq_comm]
      | ok css => simp [Except.map, diagnostic?, hscope]

/-! ### All blocks of a document -/

/-- The statements of scripts are read script by script. -/
lemma topStatements_eq_readEach (blocks : List ScriptBlock) :
    topStatements source blocks readers =
      readEach (fun block => block.topStatements source readers) blocks := by
  induction blocks with
  | nil => rfl
  | cons block blocks ih =>
    rw [topStatements, readEach, ih]
    cases block.topStatements source readers with
    | error e => rfl
    | ok statements =>
      cases readEach (fun block => block.topStatements source readers) blocks <;> rfl

/-- The pieces of styles are made style by style. -/
lemma stylePieces_eq_readEach (scopeId : Option Text) (styles : List Element) :
    stylePieces source scopeId styles readers =
      readEach (stylePieceList readers source scopeId) styles := by
  induction styles with
  | nil => rfl
  | cons style styles ih =>
    rw [stylePieces, readEach, ih, stylePieceList]
    cases stylePiece source scopeId style readers with
    | error e => rfl
    | ok piece =>
      simp only [Except.map]
      cases readEach (stylePieceList readers source scopeId) styles <;> rfl

section Picked

variable {α β : Type} {pick : Node → Option α} {fault : α → Option Text}
  {error : α → Text → CompileError} {read : α → Except CompileError (List β)} {nodes : List Node}
  {node : Node}

/-- **Of several blocks with a fault the first one is reported**, where each block is read with an
error that tells its fault. -/
lemma readEach_of_first
    (hread : ∀ a e, read a = .error e ↔ ∃ message ∈ fault a, e = error a message)
    (h : FirstOf (fun node => ((pick node).bind fault).isSome) nodes node) :
    ∃ a ∈ pick node, ∃ message ∈ fault a,
      readEach read (nodes.filterMap pick) = .error (error a message) := by
  have hfaulty : (fun node => (((pick node).bind fault).isSome : Prop)) =
      fun node => ∃ a ∈ pick node, (fault a).isSome := by
    funext node
    cases pick node <;> simp
  rw [hfaulty] at h
  obtain ⟨a, ha, hfirst⟩ := h.filterMap
  obtain ⟨message, hmessage⟩ := Option.isSome_iff_exists.1 hfirst.mem.2
  have hfails : (fun a => ∃ e, read a = .error e) = fun a => ((fault a).isSome : Prop) := by
    funext a
    simp [hread, Option.isSome_iff_exists]
  refine ⟨a, ha, message, hmessage, ?_⟩
  rw [readEach_eq_error_iff, hfails]
  exact ⟨a, hfirst, (hread a _).2 ⟨message, hmessage, rfl⟩⟩

/-- Blocks without a fault are read. -/
lemma exists_readEach_eq_ok
    (hread : ∀ a e, read a = .error e ↔ ∃ message ∈ fault a, e = error a message)
    (h : ∀ node ∈ nodes, ¬ ((pick node).bind fault).isSome) :
    ∃ bs, readEach read (nodes.filterMap pick) = .ok bs := by
  cases hall : readEach read (nodes.filterMap pick) with
  | ok bs => exact ⟨bs, rfl⟩
  | error e =>
    obtain ⟨a, hfirst, herror⟩ := readEach_eq_error_iff.1 hall
    obtain ⟨node, hnode, ha⟩ := List.mem_filterMap.1 hfirst.mem.1
    obtain ⟨message, hmessage, -⟩ := (hread a e).1 herror
    exact absurd (by simp [ha, Option.mem_def.1 hmessage]) (h node hnode)

end Picked

variable {nodes : List Node} {node : Node}

/-- **Of several rejected scripts the first one is reported.** -/
lemma topStatements_of_first (h : FirstOf (RejectedScript readers source) nodes node) :
    ∃ message ∈ scriptFault? readers source node,
      topStatements source (nodes.filterMap scriptBlock?) readers =
        .error (.script node.span message) := by
  obtain ⟨block, hblock, message, hmessage, hread⟩ :=
    readEach_of_first (fun _ _ => ScriptBlock.topStatements_eq_error_iff) h
  have hspan : node.span = block.element.span := by
    rw [eq_of_scriptBlock? hblock]
    rfl
  refine ⟨message, ?_, ?_⟩
  · rwa [scriptFault?, Option.mem_def.1 hblock]
  · rw [topStatements_eq_readEach, hread, hspan]

/-- A node that is a style is the element of that style. -/
lemma span_of_styleBlock? {style : Element} (h : styleBlock? node = some style) :
    node.span = style.span := by
  cases node with
  | element tag children span =>
    simp only [styleBlock?] at h
    split_ifs at h
    obtain rfl := Option.some.inj h
    rfl
  | text => simp [styleBlock?] at h
  | expression => simp [styleBlock?] at h
  | comment => simp [styleBlock?] at h

/-- **Of several rejected styles the first one is reported.** -/
lemma stylePieces_of_first (h : FirstOf (RejectedStyle readers source id) nodes node) :
    ∃ message ∈ styleFault? readers source id node,
      stylePieces source (some id) (nodes.filterMap styleBlock?) readers =
        .error (.style node.span message) := by
  have hpiece : ∀ style e, stylePieceList readers source (some id) style = .error e ↔
      ∃ message ∈ contentFault? readers source id style, e = .style style.span message :=
    fun _ _ => stylePieceList_eq_error_iff
  obtain ⟨style, hstyle, message, hmessage, hread⟩ := readEach_of_first hpiece h
  refine ⟨message, ?_, ?_⟩
  · rwa [styleFault?, Option.mem_def.1 hstyle]
  · rw [stylePieces_eq_readEach, hread, span_of_styleBlock? hstyle]

/-- Scripts are read if none of them is rejected. -/
lemma topStatements_of_accepted (h : ∀ node ∈ nodes, ¬ RejectedScript readers source node) :
    ∃ statements, topStatements source (nodes.filterMap scriptBlock?) readers = .ok statements := by
  rw [topStatements_eq_readEach]
  exact exists_readEach_eq_ok (fun _ _ => ScriptBlock.topStatements_eq_error_iff) h

/-- Styles are written if none of them is rejected, and always without an id to scope with. -/
lemma stylePieces_of_accepted {scopeId : Option Text}
    (h : ∀ id ∈ scopeId, ∀ node ∈ nodes, ¬ RejectedStyle readers source id node) :
    ∃ pieces, stylePieces source scopeId (nodes.filterMap styleBlock?) readers = .ok pieces := by
  rw [stylePieces_eq_readEach]
  refine exists_readEach_eq_ok (fun _ _ => stylePieceList_eq_error_iff) fun node hnode => ?_
  cases scopeId with
  | none => simp
  | some id => exact h id rfl node hnode

/-! ### Filling buckets -/

variable {scopeId : Option Text} {document document' : Document}

/-- A document with a rejected script is not sorted into buckets, whatever its styles are. -/
lemma fillBuckets_of_script (h : FirstOf (RejectedScript readers source) document.nodes node) :
    ∃ message ∈ scriptFault? readers source node,
      fillBuckets source scopeId document readers = .error (.script node.span message) := by
  obtain ⟨message, hmessage, hread⟩ := topStatements_of_first h
  refine ⟨message, hmessage, ?_⟩
  simp only [fillBuckets, Buckets.addScripts_eq, Parts.ofNodes, hread]

/-- Nor is one with a rejected style, if its scripts are read. -/
lemma fillBuckets_of_style
    (hscripts : ∀ node ∈ document.nodes, ¬ RejectedScript readers source node)
    (h : FirstOf (RejectedStyle readers source id) document.nodes node) :
    ∃ message ∈ styleFault? readers source id node,
      fillBuckets source (some id) document readers = .error (.style node.span message) := by
  obtain ⟨statements, hread⟩ := topStatements_of_accepted hscripts
  obtain ⟨message, hmessage, hstyles⟩ := stylePieces_of_first h
  refine ⟨message, hmessage, ?_⟩
  simp only [fillBuckets, Buckets.addScripts_eq, Parts.ofNodes, hread, hstyles]

/-- Any other document is. -/
lemma fillBuckets_of_accepted
    (hscripts : ∀ node ∈ document.nodes, ¬ RejectedScript readers source node)
    (hstyles : ∀ id ∈ scopeId, ∀ node ∈ document.nodes, ¬ RejectedStyle readers source id node) :
    ∃ b, fillBuckets source scopeId document readers = .ok b := by
  obtain ⟨statements, hread⟩ := topStatements_of_accepted hscripts
  obtain ⟨pieces, hpieces⟩ := stylePieces_of_accepted hstyles
  simp only [fillBuckets, Buckets.addScripts_eq, Parts.ofNodes, hread, hpieces]
  exact ⟨_, rfl⟩

/-- **When a document is not sorted into buckets.** -/
lemma fillBuckets_fails_iff : (∃ e, fillBuckets source scopeId document readers = .error e) ↔
    (∃ node ∈ document.nodes, RejectedScript readers source node) ∨
      ∃ id ∈ scopeId, ∃ node ∈ document.nodes, RejectedStyle readers source id node := by
  constructor
  · rintro ⟨e, herror⟩
    by_contra hnone
    rw [not_or] at hnone
    obtain ⟨b, hb⟩ : ∃ b, fillBuckets source scopeId document readers = .ok b :=
      fillBuckets_of_accepted (fun node hnode hr => hnone.1 ⟨node, hnode, hr⟩)
        fun id hid node hnode hr => hnone.2 ⟨id, hid, node, hnode, hr⟩
    rw [herror] at hb
    cases hb
  · intro h
    by_cases hscript : ∃ node ∈ document.nodes, RejectedScript readers source node
    · obtain ⟨node, hfirst⟩ := FirstOf.of_exists hscript
      obtain ⟨message, -, hfails⟩ := fillBuckets_of_script hfirst
      exact ⟨_, hfails⟩
    · obtain ⟨id, hid, hstyle⟩ := h.resolve_left hscript
      obtain ⟨node, hfirst⟩ := FirstOf.of_exists hstyle
      obtain rfl : scopeId = some id := hid
      obtain ⟨message, -, hfails⟩ :=
        fillBuckets_of_style (fun n hn hr => hscript ⟨n, hn, hr⟩) hfirst
      exact ⟨_, hfails⟩

/-- **The template is not consulted**: documents with the same scripts and styles at their top fail
alike. -/
lemma fillBuckets_error_congr (h : document.nodes.filter (fun node => !isTemplate node) =
      document'.nodes.filter fun node => !isTemplate node) :
    fillBuckets source scopeId document readers = .error e ↔
      fillBuckets source scopeId document' readers = .error e := by
  have hscripts : ∀ nodes : List Node, nodes.filterMap scriptBlock? =
      (nodes.filter fun node => !isTemplate node).filterMap scriptBlock? := by
    intro nodes
    rw [List.filterMap_filter]
    refine List.filterMap_congr fun node _ => ?_
    cases hblock : scriptBlock? node <;> simp [isTemplate, hblock]
  have hstyles : ∀ nodes : List Node, nodes.filterMap styleBlock? =
      (nodes.filter fun node => !isTemplate node).filterMap styleBlock? := by
    intro nodes
    rw [List.filterMap_filter]
    refine List.filterMap_congr fun node _ => ?_
    cases hstyle : styleBlock? node <;> simp [isTemplate, hstyle]
  simp only [fillBuckets, Parts.ofNodes, hscripts document.nodes, hscripts document'.nodes,
    hstyles document.nodes, hstyles document'.nodes, h]
  cases Buckets.addScripts source _ {} readers with
  | error e' => simp
  | ok b => cases stylePieces source scopeId _ readers <;> simp

/-! ### Compiling -/

variable {options : CompileOptions} {fresh : Text}

/-- Markup that cannot be read is reported before anything else is looked at. -/
lemma compile_of_parse_error {m : Markup.Error} (h : parse source = .error m) :
    compile options fresh source readers = .error (.ofMarkup m) := by
  simp only [compile, readDocument, h]

/-- Once the markup is read, compiling fails as sorting its nodes does. -/
lemma compile_eq_error_iff (h : parse source = .ok document) :
    compile options fresh source readers = .error e ↔
      fillBuckets source (options.scopeId? fresh source) document readers = .error e := by
  simp only [compile, readDocument, h]
  cases fillBuckets source (options.scopeId? fresh source) document readers <;> simp

/-- The id that a compilation scopes with, if it scopes. -/
lemma mem_scopeId?_iff : id ∈ options.scopeId? fresh source ↔
    options.scope = true ∧ id = resolveId options.id options.idStrategy fresh source := by
  unfold CompileOptions.scopeId?
  cases options.scope <;> simp [eq_comm]

/-- **When compiling fails, and with which error.**

* It fails just if the markup cannot be read, a script at the top of the document is rejected, or,
  where styles are scoped, a style at the top of it is.
* An error of the markup is reported before all others, and the first rejected script before all
  rejected styles; the first of those is reported if no script is rejected. The range is that of
  the element, and the message is what is wrong with its content.
* Without scoping no style makes a compilation fail.
* Only scripts and styles at the top count: documents that agree in these fail alike. -/
theorem compile_fails_first (readers : Readers) (options : CompileOptions) (fresh source : Text) :
    ((∃ e, compile options fresh source readers = .error e) ↔
      (∃ m, parse source = .error m) ∨ ∃ document, parse source = .ok document ∧
        ((∃ node ∈ document.nodes, RejectedScript readers source node) ∨
          options.scope = true ∧ ∃ node ∈ document.nodes, RejectedStyle readers source
            (resolveId options.id options.idStrategy fresh source) node)) ∧
    (∀ m, parse source = .error m →
      compile options fresh source readers = .error (.ofMarkup m)) ∧
    (∀ document node, parse source = .ok document →
      FirstOf (RejectedScript readers source) document.nodes node →
      ∃ message ∈ scriptFault? readers source node,
        compile options fresh source readers = .error (.script node.span message)) ∧
    (∀ document node, parse source = .ok document →
      (∀ node ∈ document.nodes, ¬ RejectedScript readers source node) → options.scope = true →
      FirstOf (RejectedStyle readers source (resolveId options.id options.idStrategy fresh source))
        document.nodes node →
      ∃ message ∈
          styleFault? readers source (resolveId options.id options.idStrategy fresh source) node,
        compile options fresh source readers = .error (.style node.span message)) ∧
    (options.scope = false →
      ∀ range message, compile options fresh source readers ≠ .error (.style range message)) ∧
    ∀ (scopeId : Option Text) (document document' : Document),
      (document.nodes.filter fun node => !isTemplate node) =
        (document'.nodes.filter fun node => !isTemplate node) →
      ∀ e, fillBuckets source scopeId document readers = .error e ↔
        fillBuckets source scopeId document' readers = .error e := by
  refine ⟨?_, fun m => compile_of_parse_error, fun document node hparse hfirst => ?_,
    fun document node hparse hscripts hscope hfirst => ?_, fun hscope range message herror => ?_,
    fun scopeId document document' h e => fillBuckets_error_congr h⟩
  · cases hparse : parse source with
    | error m =>
      exact iff_of_true ⟨_, compile_of_parse_error hparse⟩ (.inl ⟨m, rfl⟩)
    | ok document =>
      have hfails : (∃ e,
          fillBuckets source (options.scopeId? fresh source) document readers = .error e) ↔ _ :=
        fillBuckets_fails_iff
      simp only [mem_scopeId?_iff, and_assoc, exists_and_left, exists_eq_left] at hfails
      simp only [compile_eq_error_iff hparse, hfails]
      simp
  · obtain ⟨message, hmessage, hfills⟩ := fillBuckets_of_script hfirst
    exact ⟨message, hmessage, (compile_eq_error_iff hparse).2 hfills⟩
  · have hid : options.scopeId? fresh source =
        some (resolveId options.id options.idStrategy fresh source) :=
      mem_scopeId?_iff.2 ⟨hscope, rfl⟩
    obtain ⟨message, hmessage, hfills⟩ := fillBuckets_of_style hscripts hfirst
    rw [← hid] at hfills
    exact ⟨message, hmessage, (compile_eq_error_iff hparse).2 hfills⟩
  · cases hparse : parse source with
    | error m =>
      rw [compile_of_parse_error hparse] at herror
      cases herror
    | ok document =>
      rw [compile_eq_error_iff hparse] at herror
      have hnone : options.scopeId? fresh source = none := by
        simp [CompileOptions.scopeId?, hscope]
      rcases fillBuckets_fails_iff.1 ⟨_, herror⟩ with hscript | ⟨id, hid, -⟩
      · obtain ⟨node, hfirst⟩ := FirstOf.of_exists hscript
        obtain ⟨_, -, hfills⟩ := fillBuckets_of_script hfirst
        rw [hfills] at herror
        cases herror
      · simp [hnone] at hid

/-! ### Components with several faults -/

/-- A bad style, a bad script within the template, and a bad script at the top. -/
def badScripts : Text := "<style>a</style><p><script>(</script></p><script>)</script>".toList

/-- The nodes of that component. -/
def badScriptsDocument : Document :=
  ⟨[.element ⟨"style".toList, [], false⟩ [.text "a".toList ⟨7, 8⟩] ⟨0, 16⟩,
    .element ⟨"p".toList, [], false⟩
      [.element ⟨"script".toList, [], false⟩ [.text "(".toList ⟨27, 28⟩] ⟨19, 37⟩] ⟨16, 41⟩,
    .element ⟨"script".toList, [], false⟩ [.text ")".toList ⟨49, 50⟩] ⟨41, 59⟩], ⟨0, 59⟩⟩

/-- A bad style within the template, a good one and a bad one at the top. -/
def badStyles : Text := "<p><style>a</style></p><style></style><style>a</style>".toList

/-- The nodes of that component. -/
def badStylesDocument : Document :=
  ⟨[.element ⟨"p".toList, [], false⟩
      [.element ⟨"style".toList, [], false⟩ [.text "a".toList ⟨10, 11⟩] ⟨3, 19⟩] ⟨0, 23⟩,
    .element ⟨"style".toList, [], false⟩ [] ⟨23, 38⟩,
    .element ⟨"style".toList, [], false⟩ [.text "a".toList ⟨45, 46⟩] ⟨38, 54⟩], ⟨0, 54⟩⟩

/-- The script at the top is reported although the style comes before it; and where no script is
bad, the bad style at the top is, if styles are scoped. -/
theorem compile_fails_first_bad_blocks :
    (∃ message, compile ⟨true, some "z".toList, .random⟩ [] badScripts =
      .error (.script ⟨41, 59⟩ message)) ∧
    (∃ message, compile ⟨true, some "z".toList, .random⟩ [] badStyles =
      .error (.style ⟨38, 54⟩ message)) ∧
    (∀ range message, compile {} [] badStyles ≠ .error (.style range message)) ∧
    compile {} [] "<p".toList = .error (.ofMarkup ⟨0, .unterminatedTag "p".toList⟩) := by
  have hscripts : parse badScripts = .ok badScriptsDocument := by decide +kernel
  have hstyles : parse badStyles = .ok badStylesDocument := by decide +kernel
  obtain ⟨-, -, hscript, -⟩ :=
    compile_fails_first .own ⟨true, some "z".toList, .random⟩ [] badScripts
  obtain ⟨-, -, -, hstyle, -⟩ :=
    compile_fails_first .own ⟨true, some "z".toList, .random⟩ [] badStyles
  obtain ⟨-, -, -, -, hunscoped, -⟩ := compile_fails_first .own {} [] badStyles
  refine ⟨?_, ?_, hunscoped rfl, (compile_fails_first .own {} [] _).2.1 _ (by decide +kernel)⟩
  · obtain ⟨message, -, hfails⟩ := hscript badScriptsDocument _ hscripts
      ⟨badScriptsDocument.nodes.take 2, [], rfl, by decide +kernel, by decide +kernel⟩
    exact ⟨message, hfails⟩
  · obtain ⟨message, -, hfails⟩ := hstyle badStylesDocument _ hstyles (by decide +kernel) rfl
      ⟨badStylesDocument.nodes.take 2, [], rfl, by decide +kernel, by decide +kernel⟩
    exact ⟨message, hfails⟩

end OneFile
