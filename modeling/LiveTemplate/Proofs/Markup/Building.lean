import LiveTemplate.Proofs.Markup.Spine
import LiveTemplate.Proofs.Node.Walk

/-! What a lenient builder makes of its tokens. Every tag that starts an element and every comment
leaves one node, in the order of the walk, and the data are the text of the tree. The invariant
follows the open elements: each goes back to the tag that opened it, and what it holds to the
tokens behind that tag. -/
namespace LiveTemplate

/-- No two texts are neighbours. -/
def Node.TextsApart (ns : List Node) : Prop :=
  ns.IsChain fun m n => (m.isText && n.isText) = false

namespace Markup

/-- Of the attributes that were given, the first of each name is kept, in the order in which the
names came first. -/
structure FirstOfEach (given : List (String × Option String)) (kept : Attributes) : Prop where
  names : kept.map Prod.fst = (given.map fun entry => some entry.1).eraseDups
  values : ∀ name, kept.find? (some name) = given.lookup name

theorem firstOfEach_keeps (given : List (String × Option String)) :
    FirstOfEach given (Builder.firstOfEach given) := by
  induction given using List.reverseRecOn with
  | nil => exact ⟨rfl, fun _ => rfl⟩
  | append_singleton given entry ih =>
    obtain ⟨name, value⟩ := entry
    have step : Builder.firstOfEach (given ++ [(name, value)]) =
        Entries.setIfAbsent (some name) value (Builder.firstOfEach given) := by
      rw [Builder.firstOfEach, List.foldl_append]
      rfl
    rw [step]
    constructor
    · rw [Entries.keys_setIfAbsent value ih.names, List.map_append]
      rfl
    · intro other
      rw [Entries.find?_setIfAbsent, List.lookup_append, ih.values, ih.values]
      by_cases same : name = other
      · subst same
        cases given.lookup name <;> simp
      · have apart : (other == name) = false := by simpa using Ne.symm same
        cases given.lookup other <;> simp [List.lookup_cons, same, apart]

namespace Token

/-- Whether the token leaves a node of its own. -/
def leavesNode : Token → Bool
  | startTag .. | emptyTag .. | comment _ => true
  | endTag .. | data _ => false

def dataText : Token → String
  | data text => text
  | _ => ""

/-- How the node stands to the token that left it. The element of a void tag, or of one that ends
itself, has no children. -/
def Leaves : Token → Node → Prop
  | startTag tag given, .element name attributes properties children =>
    name = tag ∧ FirstOfEach given attributes ∧ properties = [] ∧
      (isVoid tag = true → children = [])
  | emptyTag tag given, .element name attributes properties children =>
    name = tag ∧ FirstOfEach given attributes ∧ properties = [] ∧ children = []
  | comment text, .comment shown => shown = text
  | _, _ => False

end Token

/-- The trees that the tokens leave: a node for each token that leaves one and, but for texts, no
other, parents before children; the data as their text; and nowhere two texts side by side. -/
structure Wrote (tokens : List Token) (ns : List Node) : Prop where
  nodes : List.Forall₂ Token.Leaves (tokens.filter Token.leavesNode)
    ((Node.allNodesOf ns).filter fun n => !n.isText)
  text : Node.textContents ns = String.join (tokens.map Token.dataText)
  apart : Node.TextsApart ns ∧ ∀ n ∈ Node.allNodesOf ns, Node.TextsApart n.children

namespace Wrote

theorem nil : Wrote [] [] := ⟨.nil, rfl, .nil, nofun⟩

/-- One node that is no text has the walk, the text and the neighbours of its children. -/
theorem one {tokens : List Token} {n : Node} (noText : n.isText = false)
    (nodes : List.Forall₂ Token.Leaves (tokens.filter Token.leavesNode)
      (n :: (Node.allNodesOf n.children).filter fun m => !m.isText))
    (text : Node.textContents n.children = String.join (tokens.map Token.dataText))
    (apart : Node.TextsApart n.children ∧
      ∀ m ∈ Node.allNodesOf n.children, Node.TextsApart m.children) : Wrote tokens [n] := by
  have whole : Node.allNodesOf [n] = n :: Node.allNodesOf n.children := by
    cases n <;> simp [Node.allNodesOf, Node.allNodes, Node.children]
  have inside : Node.textContents [n] = Node.textContents n.children := by
    cases n with
    | text => cases noText
    | _ => simp [Node.textContents, Node.textContent, Node.children]
  refine ⟨?_, inside.trans text, .singleton n, ?_⟩
  · rw [whole, List.filter_cons_of_pos (by simp [noText])]
    exact nodes
  · rw [whole]
    exact List.forall_mem_cons.mpr apart

/-- A node that is no text comes behind the others. -/
theorem append {tokens more : List Token} {ns : List Node} {n : Node} (wrote : Wrote tokens ns)
    (behind : Wrote more [n]) (noText : n.isText = false) :
    Wrote (tokens ++ more) (ns ++ [n]) := by
  refine ⟨?_, ?_, ?_, ?_⟩
  · rw [List.filter_append, Node.allNodesOf_append, List.filter_append]
    exact List.rel_append wrote.nodes behind.nodes
  · rw [Node.textContents_append, wrote.text, behind.text, List.map_append, String.join_append]
  · refine List.isChain_append.mpr ⟨wrote.apart.1, behind.apart.1, ?_⟩
    intro m _ _ first
    cases first
    rw [noText, Bool.and_false]
  · rw [Node.allNodesOf_append]
    exact List.forall_mem_append.mpr ⟨wrote.apart.2, behind.apart.2⟩

/-- A text behind the others leaves no node of its own, and the last of them is none. -/
theorem concat_text_iff {tokens : List Token} {ns : List Node} {shown : String} :
    Wrote tokens (ns ++ [.text shown]) ↔
      List.Forall₂ Token.Leaves (tokens.filter Token.leavesNode)
        ((Node.allNodesOf ns).filter fun n => !n.isText) ∧
      Node.textContents ns ++ shown = String.join (tokens.map Token.dataText) ∧
      (Node.TextsApart ns ∧ ∀ n ∈ ns.getLast?, n.isText = false) ∧
      ∀ n ∈ Node.allNodesOf ns, Node.TextsApart n.children := by
  have nodes : ((Node.allNodesOf (ns ++ [.text shown])).filter fun n => !n.isText) =
      (Node.allNodesOf ns).filter fun n => !n.isText := by
    simp [Node.allNodesOf_append, Node.allNodesOf, Node.allNodes, Node.isText]
  have text : Node.textContents (ns ++ [.text shown]) = Node.textContents ns ++ shown := by
    simp [Node.textContents_append, Node.textContents, Node.textContent]
  have apart : Node.TextsApart (ns ++ [.text shown]) ↔
      Node.TextsApart ns ∧ ∀ n ∈ ns.getLast?, n.isText = false := by
    simp [Node.TextsApart, List.isChain_append, Node.isText]
  have within : (∀ n ∈ Node.allNodesOf (ns ++ [.text shown]), Node.TextsApart n.children) ↔
      ∀ n ∈ Node.allNodesOf ns, Node.TextsApart n.children := by
    simp [Node.allNodesOf_append, Node.allNodesOf, Node.allNodes, or_imp, forall_and,
      Node.children, Node.TextsApart]
  constructor
  · rintro ⟨left, shows, beside, below⟩
    exact ⟨nodes ▸ left, text ▸ shows, apart.mp beside, within.mp below⟩
  · rintro ⟨left, shows, beside, below⟩
    exact ⟨nodes ▸ left, text ▸ shows, apart.mpr beside, within.mpr below⟩

/-- Data is joined to a text that stands last, and is a text of its own else. -/
theorem data {tokens : List Token} {children : List Node} (wrote : Wrote tokens children.reverse)
    (text : String) : Wrote (tokens ++ [.data text]) (Builder.joinData text children).reverse := by
  have nodes : (tokens ++ [Token.data text]).filter Token.leavesNode =
      tokens.filter Token.leavesNode := by
    simp [Token.leavesNode]
  have shown : String.join ((tokens ++ [Token.data text]).map Token.dataText) =
      String.join (tokens.map Token.dataText) ++ text := by
    simp [Token.dataText]
  unfold Builder.joinData
  split
  · rename_i before rest
    rw [List.reverse_cons, concat_text_iff] at wrote ⊢
    obtain ⟨left, shows, beside, below⟩ := wrote
    refine ⟨nodes ▸ left, ?_, beside, below⟩
    rw [shown, ← shows, String.append_assoc]
  · rename_i noText
    rw [List.reverse_cons, concat_text_iff]
    refine ⟨nodes ▸ wrote.nodes, ?_, ⟨wrote.apart.1, ?_⟩, wrote.apart.2⟩
    · rw [shown, wrote.text]
    · intro n last
      rw [List.getLast?_reverse] at last
      obtain ⟨rest, rfl⟩ := List.head?_eq_some_iff.mp last
      cases n with
      | text before => exact absurd rfl (noText before rest)
      | _ => rfl

/-- An element holds what the tokens behind its tag leave. -/
theorem element {tag : String} {given : List (String × Option String)} {tokens : List Token}
    {children : List Node} (filled : isVoid tag = true → children = [])
    (wrote : Wrote tokens children) :
    Wrote (.startTag tag given :: tokens)
      [.element tag (Builder.firstOfEach given) [] children] := by
  refine one rfl ?_ ?_ wrote.apart
  · exact .cons ⟨rfl, firstOfEach_keeps given, rfl, filled⟩ wrote.nodes
  · simpa [Token.dataText, Node.children] using wrote.text

theorem emptyElement (tag : String) (given : List (String × Option String)) :
    Wrote [.emptyTag tag given] [.element tag (Builder.firstOfEach given) [] []] :=
  one rfl (.cons ⟨rfl, firstOfEach_keeps given, rfl, rfl⟩ .nil) rfl nil.apart

theorem comment (text : String) : Wrote [.comment text] [.comment text] :=
  one rfl (.cons rfl .nil) rfl nil.apart

theorem endTag {tokens : List Token} {ns : List Node} (wrote : Wrote tokens ns) (tag : String)
    (place : Text.Position) : Wrote (tokens ++ [.endTag tag place]) ns := by
  refine ⟨?_, ?_, wrote.apart⟩
  · simpa [Token.leavesNode] using wrote.nodes
  · simpa [Token.dataText] using wrote.text

end Wrote

/-- The tokens that led to a builder: each open element goes back to the start tag before what it
holds, and the top level to what comes first. -/
def WroteOpen : List Token → List OpenElement → List Node → Prop
  | tokens, [], top => Wrote tokens top.reverse
  | tokens, e :: stack, top => ∃ before given inner,
    tokens = before ++ .startTag e.tag given :: inner ∧ isVoid e.tag = false ∧
      e.attributes = Builder.firstOfEach given ∧ WroteOpen before stack top ∧
      Wrote inner e.children.reverse

namespace Builder

/-- The builder is what these tokens lead to. -/
def BuiltFrom (tokens : List Token) (b : Builder) : Prop := WroteOpen tokens b.stack b.top

variable {tokens : List Token} {b : Builder}

/-- What tokens leave in any children they leave in those of the innermost open element. -/
theorem BuiltFrom.extend (built : b.BuiltFrom tokens) {more : List Token}
    {f : List Node → List Node} (leave : ∀ {tokens children}, Wrote tokens children.reverse →
      Wrote (tokens ++ more) (f children).reverse) :
    (b.mapChildren f).BuiltFrom (tokens ++ more) := by
  obtain ⟨_ | ⟨e, stack⟩, top⟩ := b
  · exact leave built
  · obtain ⟨before, given, inner, rfl, filled, attributes, outer, wrote⟩ := built
    exact ⟨before, given, inner ++ more, by simp, filled, attributes, outer, leave wrote⟩

theorem BuiltFrom.add (built : b.BuiltFrom tokens) {more : List Token} {n : Node}
    (wrote : Wrote more [n]) (noText : n.isText = false) :
    (b.add n).BuiltFrom (tokens ++ more) :=
  built.extend fun before => by
    rw [List.reverse_cons]
    exact before.append wrote noText

theorem BuiltFrom.closeInnermost (built : b.BuiltFrom tokens) :
    b.closeInnermost.BuiltFrom tokens := by
  obtain ⟨_ | ⟨e, stack⟩, top⟩ := b
  · exact built
  · obtain ⟨before, given, inner, rfl, filled, attributes, outer, wrote⟩ := built
    have closed : Wrote (.startTag e.tag given :: inner) [e.close] := by
      rw [OpenElement.close, attributes]
      exact wrote.element fun void => by rw [filled] at void; cases void
    exact BuiltFrom.add (b := ⟨stack, top⟩) outer closed rfl

theorem BuiltFrom.closeMany (built : b.BuiltFrom tokens) (count : Nat) :
    (closeMany count b).BuiltFrom tokens := by
  induction count generalizing b with
  | zero => exact built
  | succ count ih => exact ih built.closeInnermost

/-- The finished tree is what the tokens leave. -/
theorem BuiltFrom.finish (built : b.BuiltFrom tokens) : Wrote tokens b.finish := by
  induction b using closing_induction with
  | flat top => exact built
  | opened e stack top ih =>
    rw [finish_of_open]
    exact ih built.closeInnermost

/-- A lenient builder takes every token. -/
theorem BuiltFrom.take (built : b.BuiltFrom tokens) (token : Token) :
    ∃ c, b.take false token = .ok c ∧ c.BuiltFrom (tokens ++ [token]) := by
  cases token with
  | startTag tag given =>
    rw [Builder.take]
    cases void : isVoid tag with
    | true =>
      exact ⟨_, if_pos rfl, built.add (Wrote.nil.element fun _ => rfl) rfl⟩
    | false =>
      exact ⟨_, if_neg Bool.false_ne_true, tokens, given, [], rfl, void, rfl, built, .nil⟩
  | emptyTag tag given => exact ⟨_, rfl, built.add (.emptyElement tag given) rfl⟩
  | comment text => exact ⟨_, rfl, built.add (.comment text) rfl⟩
  | data text => exact ⟨_, rfl, built.extend fun before => before.data text⟩
  | endTag tag place =>
    -- The tag is counted to what it stands in; closing then leaves the tokens in their order.
    have same : b.BuiltFrom (tokens ++ [.endTag tag place]) := by
      rw [← mapChildren_id b]
      exact built.extend fun before => before.endTag tag place
    rw [Builder.take, Builder.endTag]
    cases b.closedBy? tag with
    | none => exact ⟨b, rfl, same⟩
    | some count => exact ⟨_, rfl, same.closeMany count⟩

theorem BuiltFrom.takeAll (built : b.BuiltFrom tokens) (more : List Token) :
    ∃ c, Builder.takeAll false more b = .ok c ∧ c.BuiltFrom (tokens ++ more) := by
  induction more generalizing tokens b with
  | nil => exact ⟨b, rfl, by rwa [List.append_nil]⟩
  | cons token more ih =>
    obtain ⟨c, taken, next⟩ := built.take token
    obtain ⟨d, rest, whole⟩ := ih next
    refine ⟨d, ?_, by simpa using whole⟩
    rw [Builder.takeAll, taken]
    exact rest

/-- The node is put last into the innermost open one. -/
def PutsLast (b c : Builder) (n : Node) : Prop :=
  c.openTags = b.openTags ∧ c.current.children.getLast? = some n

theorem putsLast_add (b : Builder) (n : Node) : PutsLast b (b.add n) n :=
  ⟨openTags_mapChildren b _, getLast?_children_add b n⟩

theorem putsLast_data (b : Builder) (text : String) :
    ∃ before, PutsLast b (b.mapChildren (joinData text)) (.text (before ++ text)) := by
  obtain ⟨children, whole⟩ := b.children_current_mapChildren (joinData text)
  obtain ⟨before, latest⟩ : ∃ before,
      (joinData text children).head? = some (.text (before ++ text)) := by
    unfold joinData
    split
    · exact ⟨_, rfl⟩
    · exact ⟨"", by rw [String.empty_append]; rfl⟩
  exact ⟨before, openTags_mapChildren b _, by rw [whole, List.getLast?_reverse, latest]⟩

end Builder

/-- What a token does with the tree so far. The element of a start tag that is not void is open from
then on; every other node, and data, is put last into what is open; and an end tag closes. -/
def Token.Acts (b c : Builder) : Token → Prop
  | startTag tag given => ∃ n, Leaves (startTag tag given) n ∧ n.children = [] ∧
    if isVoid tag then Builder.PutsLast b c n
    else c.openTags = b.openTags ++ [tag] ∧ c.current = n
  | emptyTag tag given => ∃ n, Leaves (emptyTag tag given) n ∧ Builder.PutsLast b c n
  | comment text => Builder.PutsLast b c (.comment text)
  | data text => ∃ before, Builder.PutsLast b c (.text (before ++ text))
  | endTag tag _ => Builder.ClosesInnermost tag b c

namespace Builder

/-- A lenient builder takes every token. -/
theorem acts_of_take (b : Builder) (token : Token) :
    ∃ c, b.take false token = .ok c ∧ token.Acts b c := by
  cases token with
  | startTag tag given =>
    have leaves : Token.Leaves (.startTag tag given) (.element tag (firstOfEach given) [] []) :=
      ⟨rfl, firstOfEach_keeps given, rfl, fun _ => rfl⟩
    rw [take]
    cases void : isVoid tag with
    | true =>
      refine ⟨_, if_pos rfl, _, leaves, rfl, ?_⟩
      rw [void]
      exact putsLast_add b _
    | false =>
      refine ⟨_, if_neg Bool.false_ne_true, _, leaves, rfl, ?_⟩
      rw [void]
      refine ⟨?_, rfl⟩
      rw [openTags_eq, openTags_eq, List.map_cons, List.reverse_cons]
  | emptyTag tag given =>
    have leaves : Token.Leaves (.emptyTag tag given) (.element tag (firstOfEach given) [] []) :=
      ⟨rfl, firstOfEach_keeps given, rfl, rfl⟩
    exact ⟨_, rfl, _, leaves, putsLast_add b _⟩
  | comment text => exact ⟨_, rfl, putsLast_add b _⟩
  | data text => exact ⟨_, rfl, putsLast_data b text⟩
  | endTag tag place => exact closes_of_endTag tag place b

/-- A lenient builder takes any tokens. The tree it finishes is what the tokens leave; the open
elements go down its right edge; and whatever token came next would act on what is open: an end
tag would close the innermost of its name with all that was opened in it, or nothing. -/
theorem tokens_leave_tree (tokens : List Token) : ∃ b,
    takeAll false tokens .empty = .ok b ∧ Wrote tokens b.finish ∧
      b.openNodes.head? = some (.fragment b.finish) ∧
      (b.openNodes.IsChain fun outer inner =>
        inner.isElement = true ∧ outer.children.getLast? = some inner) ∧
      ∀ token, ∃ c, b.take false token = .ok c ∧ token.Acts b c := by
  obtain ⟨b, taken, built⟩ := BuiltFrom.takeAll (b := .empty) Wrote.nil tokens
  exact ⟨b, taken, built.finish, head?_openNodes b, isChain_openNodes b, acts_of_take b⟩

end Builder
end Markup
end LiveTemplate
