import OneFile.Component.Segment
import OneFile.Proofs.Markup.Replacement

/-!
# Raw bodies do not change what a component is made of

Sorting the top-level nodes of a component into scripts, styles and template looks at names and
attributes only. So another body of a script or a style, wherever in the component it is, changes
nothing but that body: the scripts are the same ones and are shared alike, and so are the styles
and the nodes of the template.

## Main definitions

* `OneFile.Parts.replace` — the parts of a component after a replacement.

## Main results

* `OneFile.Parts.ofNodes_replaceAll` — sorting comes before replacing or after it.
* `OneFile.raw_bodies_do_not_leak` — a component with another raw body has the same parts, up to
  that body.
-/

namespace OneFile

open Markup

variable (r : Replacement)

/-! ### Parts after a replacement -/

/-- The element after a replacement. -/
def Markup.Element.replace (e : Element) : Element :=
  ⟨e.tag.replace r,
    if e.span = r.element then rawNodes r.text r.body.start else Node.replaceAll r e.children,
    r.moveSpan e.span⟩

/-- The script after a replacement; it is shared as before. -/
def ScriptBlock.replace (block : ScriptBlock) : ScriptBlock :=
  ⟨block.element.replace r, block.isModule⟩

/-- **The parts of a component after a replacement.** -/
def Parts.replace (parts : Parts) : Parts :=
  ⟨parts.scripts.map (ScriptBlock.replace r), parts.styles.map (Element.replace r),
    Node.replaceAll r parts.template⟩

/-! ### Sorting looks at names and attributes only -/

/-- The first attribute of a name is the same one. -/
lemma Markup.Tag.attribute?_replace (tag : Tag) (name : Text) :
    (tag.replace r).attribute? name = (tag.attribute? name).map (Attribute.replace r) := by
  rw [Tag.attribute?, Tag.replace, List.find?_map]
  rfl

/-- A script is shared as before. -/
lemma isModuleScript_replace (tag : Tag) : isModuleScript (tag.replace r) = isModuleScript tag := by
  simp only [isModuleScript, Tag.hasAttribute, Tag.attribute?_replace, Option.isSome_map]
  cases tag.attribute? "context".toList <;> rfl

/-- A script is still one when its node is replaced. -/
lemma scriptBlock?_replace (node : Node) :
    scriptBlock? (node.replace r) = (scriptBlock? node).map (ScriptBlock.replace r) := by
  cases node with
  | element tag children span =>
    have hname : (tag.replace r).name = tag.name := rfl
    by_cases h : tag.name = "script".toList
    · simp only [Node.replace, scriptBlock?, hname, if_pos h, isModuleScript_replace]
      rfl
    · simp only [Node.replace, scriptBlock?, hname, if_neg h]
      rfl
  | text => rfl
  | expression => rfl
  | comment => rfl

/-- So is a style. -/
lemma styleBlock?_replace (node : Node) :
    styleBlock? (node.replace r) = (styleBlock? node).map (Element.replace r) := by
  cases node with
  | element tag children span =>
    have hname : (tag.replace r).name = tag.name := rfl
    by_cases h : tag.name = "style".toList
    · simp only [Node.replace, styleBlock?, hname, if_pos h]
      rfl
    · simp only [Node.replace, styleBlock?, hname, if_neg h]
      rfl
  | text => rfl
  | expression => rfl
  | comment => rfl

/-- So is a part of the template. -/
lemma isTemplate_replace (node : Node) : isTemplate (node.replace r) = isTemplate node := by
  simp [isTemplate, scriptBlock?_replace, styleBlock?_replace]

/-- A text is as blank as it was. -/
lemma isBlankText_replace (node : Node) : (node.replace r).isBlankText = node.isBlankText := by
  cases node <;> rfl

/-- **Sorting comes before replacing or after it.** -/
theorem Parts.ofNodes_replaceAll (nodes : List Node) :
    Parts.ofNodes (Node.replaceAll r nodes) = (Parts.ofNodes nodes).replace r := by
  have hscript : scriptBlock? ∘ Node.replace r =
      Option.map (ScriptBlock.replace r) ∘ scriptBlock? := funext (scriptBlock?_replace r)
  have hstyle : styleBlock? ∘ Node.replace r = Option.map (Element.replace r) ∘ styleBlock? :=
    funext (styleBlock?_replace r)
  have htemplate : isTemplate ∘ Node.replace r = isTemplate := funext (isTemplate_replace r)
  have hblank : Node.isBlankText ∘ Node.replace r = Node.isBlankText :=
    funext (isBlankText_replace r)
  simp only [Parts.ofNodes, Parts.replace, Node.replaceAll_eq_map, Parts.mk.injEq]
  refine ⟨?_, ?_, ?_⟩
  · rw [List.filterMap_map, hscript, List.map_filterMap]
    rfl
  · rw [List.filterMap_map, hstyle, List.map_filterMap]
    rfl
  · rw [List.filter_map, htemplate, List.dropWhile_map, hblank]

/-- **Raw bodies do not leak.** In a component that is read without an error, the body of a script
or a style, at any depth, stands between the opening tag of the element and its first close tag,
and makes up its children. With any other text in its place that does not hold the start of the
close tag, the component is read as the tree that it was read as, with that text as the children of
the element and with the places behind the body moved; it has the same scripts, which are shared
alike, the same styles and the same template.

**Proof sketch.** The tree is that of `parse_replace`, and its parts are those of the old one after
the replacement, by `Parts.ofNodes_replaceAll`. -/
theorem raw_bodies_do_not_leak {source : Text} {document : Document} {tag : Tag}
    {children : List Node} {span : Span} (hparse : parse source = .ok document)
    (hwithin : Node.Within (.element tag children span) document.nodes)
    (hraw : isRaw tag.name = true) (hopen : tag.selfClosing = false) :
    ∃ before body after, RawBody source tag span before body after ∧
      children = rawNodes body before.size ∧
      ∀ text, ¬ ("</".toList ++ tag.name) <:+: text →
        let r : Replacement := ⟨span, ⟨before.size, (before ++ body).size⟩, text⟩
        ∃ document', parse (before ++ text ++ after) = .ok document' ∧
          document'.nodes = Node.replaceAll r document.nodes ∧
          document'.span = ⟨0, (before ++ text ++ after).size⟩ ∧
          Parts.ofNodes document'.nodes = (Parts.ofNodes document.nodes).replace r := by
  obtain ⟨before, body, after, hbody, hchildren, hall⟩ := parse_replace hparse hwithin hraw hopen
  refine ⟨before, body, after, hbody, hchildren, fun text htext => ?_⟩
  exact ⟨_, hall text htext, rfl, rfl, Parts.ofNodes_replaceAll _ _⟩

/-! ### A style within a template -/

/-- A component with a style within its template, and a script after it. -/
def styledParagraph : Text := "<p>é<style>a</style ></p><script module>x</script>".toList

/-- The style of that component. -/
def nestedStyle : Element := ⟨⟨"style".toList, [], false⟩, [.text "a".toList ⟨12, 13⟩], ⟨5, 22⟩⟩

/-- The document of that component. -/
def styledDocument : Document where
  nodes := [
    .element ⟨"p".toList, [], false⟩
      [.text "é".toList ⟨3, 5⟩, .element nestedStyle.tag nestedStyle.children nestedStyle.span]
      ⟨0, 26⟩,
    .element ⟨"script".toList, [⟨"module".toList, .empty, ⟨34, 40⟩⟩], false⟩
      [.text "x".toList ⟨41, 42⟩] ⟨26, 51⟩]
  span := ⟨0, 51⟩

/-- A close tag and a stray bracket in that style do not leak. -/
theorem raw_bodies_do_not_leak_close_tag : ∃ before body after document',
    RawBody styledParagraph nestedStyle.tag nestedStyle.span before body after ∧
      nestedStyle.children = rawNodes body before.size ∧
      parse (before ++ "</p><".toList ++ after) = .ok document' ∧
      Parts.ofNodes document'.nodes = (Parts.ofNodes styledDocument.nodes).replace
        ⟨nestedStyle.span, ⟨before.size, (before ++ body).size⟩, "</p><".toList⟩ := by
  have hparse : parse styledParagraph = .ok styledDocument := by decide +kernel
  have hwithin : Node.Within (.element nestedStyle.tag nestedStyle.children nestedStyle.span)
      styledDocument.nodes := .inside List.mem_cons_self (.among (by simp))
  obtain ⟨before, body, after, hbody, hchildren, hall⟩ :=
    raw_bodies_do_not_leak hparse hwithin (by decide) rfl
  obtain ⟨document', hparse', -, -, hparts⟩ := hall "</p><".toList (by decide)
  exact ⟨before, body, after, document', hbody, hchildren, hparse', hparts⟩

example : parse "<p>é<style></p><</style ></p><script module>x</script>".toList = .ok
    ⟨Node.replaceAll ⟨nestedStyle.span, ⟨12, 13⟩, "</p><".toList⟩ styledDocument.nodes,
      ⟨0, 55⟩⟩ := by
  decide +kernel

end OneFile
