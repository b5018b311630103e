import LiveTemplate.Proofs.Markup.Passage
import LiveTemplate.Proofs.Markup.Structure

/-! Parsing undoes rendering. A clean tree in its normal form is passed node by node, each in its
own tokens: behind a text stands a tag, and behind all else anything may stand. Any other clean
tree is written as its normal form is. -/
namespace LiveTemplate.Markup

open Node

/-- A passed node among the children so far, the latest first. -/
def addNode : Node → List Node → List Node
  | .text data, children => Builder.joinData data children
  | n, children => n :: children

def addNodes (ns children : List Node) : List Node :=
  ns.foldl (fun children n => addNode n children) children

theorem addNode_apart {n : Node} {children : List Node}
    (apart : n.isText → ∀ m ∈ children.head?, ¬ m.isText) :
    addNode n children = n :: children := by
  cases n with
  | text data =>
    rcases children with _ | ⟨m, children⟩
    · rfl
    · have noText := apart rfl m rfl
      cases m <;> first | rfl | exact absurd rfl noText
  | _ => rfl

/-- No text is joined to another one in normal form. -/
theorem addNodes_normal {ns children : List Node} (normal : AllNormal ns)
    (apart : ∀ n ∈ ns.head?, n.isText → ∀ m ∈ children.head?, ¬ m.isText) :
    addNodes ns children = ns.reverse ++ children := by
  induction ns generalizing children with
  | nil => rfl
  | cons n ns ih =>
    obtain ⟨-, next, others⟩ := normal
    rw [addNodes, List.foldl_cons, addNode_apart (apart n rfl), List.reverse_cons,
      List.append_assoc]
    refine ih others fun m first isText k last => ?_
    cases last
    exact fun before => next before m first isText

/-- A tag or a comment begins with an angle bracket. -/
theorem head_renderNode {n : Node} (clean : n.Clean) (normal : n.Normal) (noText : ¬ n.isText)
    (rest : List Char) : (renderNode false n ++ rest).head? = some '<' := by
  cases n with
  | text data => exact absurd rfl noText
  | comment data => rfl
  | element tag attributes properties cs =>
    rw [renderNode]
    split <;> rfl
  | fragment cs => cases normal
  | bare | bareParent => cases clean

theorem head_renderNodes {ns : List Node} {rest : List Char} (clean : AllClean ns)
    (normal : AllNormal ns) (noText : ∀ n ∈ ns.head?, ¬ n.isText)
    (stop : ∀ c ∈ rest.head?, c = '<') : ∀ c ∈ (renderNodes false ns ++ rest).head?, c = '<' := by
  cases ns with
  | nil => exact stop
  | cons n ns =>
    rw [renderNodes, List.append_assoc, head_renderNode clean.1 normal.1 (noText n rfl)]
    rintro _ ⟨⟩
    rfl

/-- In normal form plain content is at most one text. -/
theorem plainContent_cases {cs : List Node} (plain : PlainContent cs) (normal : AllNormal cs) :
    cs = [] ∨ ∃ data, data ≠ "" ∧ cs = [.text data] := by
  obtain ⟨texts, -⟩ := plain
  rcases cs with _ | ⟨n, _ | ⟨m, cs⟩⟩
  · exact .inl rfl
  · have isText := texts n List.mem_cons_self
    cases n <;> cases isText
    exact .inr ⟨_, normal.1, rfl⟩
  · have apart := normal.2.1 (texts n List.mem_cons_self) m rfl
    exact absurd (texts m (by simp)) apart

theorem isRawText_of_isVoid {tag : String} (void : isVoid tag) : isRawText tag = false := by
  cases raw : isRawText tag with
  | false => rfl
  | true =>
    rcases isRawText_cases raw with rfl | rfl
    · exact absurd void (by decide)
    · exact absurd void (by decide)

namespace Parsing

/-- The content of a raw-text element, with its end tag. -/
theorem leads_content (b : Builder) (rest : List Char) {tag : String} (raw : isRawText tag)
    (attributes : Attributes) {cs : List Node} (plain : PlainContent cs) (normal : AllNormal cs) :
    Leads ⟨some tag, renderNodes true cs ++ (renderEndTag tag ++ rest), b.opened tag attributes⟩
      ⟨none, rest, b.add (.element tag attributes [] cs)⟩ := by
  have passed := leads_rawText b rest raw plain.2 attributes
  rcases plainContent_cases plain normal with rfl | ⟨data, shown, rfl⟩
  · exact passed
  · have whole : textContents [.text data] = data := String.append_empty
    rw [whole, if_neg shown, List.append_assoc] at passed
    rw [renderNodes, renderNodes, List.append_nil]
    exact passed

mutual

-- The induction is on the tree. The builder and the text behind are arbitrary, so that children are
-- passed inside the element that was opened for them, before its end tag.
theorem leads_node : (n : Node) → n.Clean → n.Normal → ∀ (b : Builder) (rest : List Char),
    (n.isText → ∀ c ∈ rest.head?, c = '<') →
      Leads ⟨none, renderNode false n ++ rest, b⟩ ⟨none, rest, b.mapChildren (addNode n)⟩
  | .text data, _, shown, b, rest, stop => leads_text b rest shown (stop rfl)
  | .comment data, clean, _, b, rest, _ => leads_comment b rest clean
  | .element tag attributes properties cs, clean, normal, b, rest, _ => by
    obtain ⟨plain, names, void, raw, inner⟩ := clean
    obtain ⟨rfl, normalInner⟩ := normal
    have start := leads_startTag b
      (renderNodes (isRawText tag) cs ++ (renderEndTag tag ++ rest)) plain names
    rw [renderNode]
    split
    case isTrue isVoid =>
      rw [void isVoid]
      have start := leads_startTag b rest plain names
      rwa [if_pos isVoid, isRawText_of_isVoid isVoid] at start
    case isFalse notVoid =>
      rw [if_neg notVoid] at start
      rw [List.append_assoc, List.append_assoc]
      refine start.trans ?_
      cases isRaw : isRawText tag with
      | true => exact leads_content b rest isRaw attributes (raw isRaw) normalInner
      | false =>
        have children := leads_nodes cs inner normalInner (b.opened tag attributes)
          (renderEndTag tag ++ rest) (by rintro _ ⟨⟩; rfl)
        have end' := leads_endTag b rest plain attributes (addNodes cs)
        rw [addNodes_normal normalInner (by simp), List.append_nil, List.reverse_reverse] at end'
        exact children.trans end'

theorem leads_nodes : (ns : List Node) → AllClean ns → AllNormal ns →
    ∀ (b : Builder) (rest : List Char), (∀ c ∈ rest.head?, c = '<') →
      Leads ⟨none, renderNodes false ns ++ rest, b⟩ ⟨none, rest, b.mapChildren (addNodes ns)⟩
  | [], _, _, b, rest, _ => by
    rw [show addNodes [] = fun children => children from rfl, Builder.mapChildren_id]
    exact .refl _
  | n :: ns, clean, normal, b, rest, stop => by
    have here := leads_node n clean.1 normal.1 b (renderNodes false ns ++ rest) fun isText =>
      head_renderNodes clean.2 normal.2.2 (normal.2.1 isText) stop
    have later := leads_nodes ns clean.2 normal.2.2 (b.mapChildren (addNode n)) rest stop
    rw [Builder.mapChildren_mapChildren] at later
    rw [renderNodes, List.append_assoc]
    exact here.trans later

end

end Parsing

/-- What is written of a clean tree is read as its normal form. -/
theorem parse_render {cs : List Node} (clean : AllClean cs) (strict : Bool) :
    parse strict false (render (.fragment cs)) = .ok (.fragment (normalForm cs)) := by
  have normal := allNormal_normalForm cs
  have leads := Parsing.leads_nodes (normalForm cs) (allClean_normalForm clean) normal .empty []
    (by simp)
  have text : (render (.fragment cs)).toList = renderNodes false (normalForm cs) ++ [] := by
    rw [render, String.toList_ofList, renderNode, renderNodes_normalForm, List.append_nil]
  rw [← text] at leads
  have built : (Builder.empty.mapChildren (addNodes (normalForm cs))).finish = normalForm cs := by
    change (addNodes (normalForm cs) []).reverse = normalForm cs
    rw [addNodes_normal normal (by simp), List.append_nil, List.reverse_reverse]
  rw [Parsing.parse_of_leads leads strict, built]

/-- Reading what was written of a clean tree gives its normal form; and no text outside raw-text
elements and no value of an attribute has a say in the structure of what is read. -/
theorem parsing_undoes_rendering {cs : List Node} (clean : (Node.fragment cs).Clean)
    (strict : Bool) :
    parse strict false (render (.fragment cs)) = .ok (.fragment (normalForm cs)) ∧
      ∀ ds, blankedAll ds = blankedAll cs →
        ∃ read, parse strict false (render (.fragment ds)) = .ok (.fragment read) ∧
          outlines read = outlines cs := by
  refine ⟨parse_render clean strict, fun ds same => ?_⟩
  have others : AllClean ds := allClean_of_blankedAll_eq same clean
  refine ⟨normalForm ds, parse_render others strict, ?_⟩
  rw [outlines_normalForm others, outlines_eq_of_blankedAll_eq same]

/-- Content that looks like markup, in every place where content may stand. -/
def quotedPage : List Node := [
  .text "1 < 2 &amp;lt; &#", .text "", .text "x41; \"</p>",
  .fragment [
    .text "<!-- ", .fragment [.comment " -- a - "],
    .element "input" [
      (some "disabled", none), (some "@click.once", some "a && 'b' > \"c\"\t/>&quot;</p>")] [] []],
  .element "script" [] [(some "ready", .null)] [.text "if (a<b && c) x = \"<!--\";", .text "<"],
  .element "x-1" [(some ":a", some "")] [] [.text "", .fragment []]]

theorem quotedPage_parsing : (Node.fragment quotedPage).Clean ∧
    normalForm quotedPage = [
      .text "1 < 2 &amp;lt; &#x41; \"</p><!-- ", .comment " -- a - ",
      .element "input" [
        (some "disabled", none),
        (some "@click.once", some "a && 'b' > \"c\"\t/>&quot;</p>")] [] [],
      .element "script" [] [] [.text "if (a<b && c) x = \"<!--\";<"],
      .element "x-1" [(some ":a", some "")] [] []] ∧
    parse true false (render (.fragment quotedPage)) = .ok (.fragment (normalForm quotedPage)) ∧
    blankedAll (blankedAll quotedPage) = blankedAll quotedPage ∧
    ∃ read, parse true false (render (.fragment (blankedAll quotedPage))) =
      .ok (.fragment read) ∧ outlines read = outlines quotedPage := by
  have clean : (Node.fragment quotedPage).Clean := by decide +kernel
  have blank : blankedAll (blankedAll quotedPage) = blankedAll quotedPage := by
    simp [quotedPage, blankedAll, blanked, bareNames, isRawText, rawTextTags]
  obtain ⟨undone, unmoved⟩ := parsing_undoes_rendering clean true
  refine ⟨clean, ?_, undone, blank, unmoved _ blank⟩
  simp [normalForm, quotedPage, splicedAll, spliced, joinTexts, prepend]

end LiveTemplate.Markup
