import LiveTemplate.Proofs.Node.Walk
import LiveTemplate.Proofs.Placeholder.Placement
import LiveTemplate.Template.Compile

/-! Compiling without numbers. What a tree becomes and which bindings its walked nodes get are said
by recursion on the tree alone; the compiler yields the same with the bindings numbered from its
index on, and its index moves by one for each walked node. -/
namespace LiveTemplate

/-- The attributes of an element; other nodes have none. -/
def Node.attributes : Node → Attributes
  | .element _ attributes _ _ => attributes
  | _ => []

/-- A property of the attributes of every node of a tree. -/
def Node.AllAttributes (holds : Attributes → Prop) (root : Node) : Prop :=
  ∀ n ∈ root.allNodes, holds n.attributes

/-- Only a binding without a target leaves an attribute without a name. -/
def Attributes.Named (attributes : Attributes) : Prop := ∀ a ∈ attributes, a.1 ≠ none

instance (attributes : Attributes) : Decidable attributes.Named :=
  inferInstanceAs (Decidable (∀ a ∈ attributes, a.1 ≠ none))

/-- What can be compiled: a fragment or an element, made of nodes that can be copied, with
attributes under names. -/
structure Node.Compilable (source : Node) : Prop where
  root : source.isRoot = true
  clonable : source.isClonable = true
  named : source.AllAttributes Attributes.Named

namespace Compile

open Placeholder (slice Placed)

/-- A text compiles to static characters and to the holes that its placeholders leave. -/
inductive Piece where
  | static (data : List Char)
  | hole (p : Placeholder)

namespace Piece

def node : Piece → Node
  | static data => .text (String.ofList data)
  | hole _ => .text ""

def bindings : Piece → List Descriptor
  | static _ => []
  | hole p => [textDescriptor p]

end Piece

def staticPiece (data : List Char) : List Piece := if data.isEmpty then [] else [.static data]

/-- The pieces of what a text has from `consumed` on. -/
def piecesFrom (text : List Char) (consumed : Nat) : List Placeholder → List Piece
  | [] => staticPiece (text.drop consumed)
  | p :: rest =>
    staticPiece (slice text consumed p.start) ++ .hole p :: piecesFrom text p.stop rest

def pieces (config : Config) (data : String) : List Piece :=
  piecesFrom data.toList 0 (Placeholder.all config data)

/-- The binding of an attribute, if it has a name and its value holds a placeholder. -/
def bindingOf? (config : Config) : FieldName × Option String → Option Descriptor
  | (some name, value) => (Placeholder.ofAttribute? config value).map fun p =>
    ⟨(BindingKind.ofAttribute config name).1, p.expression,
      some (BindingKind.ofAttribute config name).2⟩
  | (none, _) => none

def boundAttributes (config : Config) (attributes : Attributes) : List Descriptor :=
  attributes.filterMap (bindingOf? config)

mutual

/-- What a node becomes; a text may become any number of texts. -/
def compiled (config : Config) : Node → List Node
  | .text data => (pieces config data).map Piece.node
  | .element tag attributes properties cs =>
    [.element tag (staticAttributes config attributes) properties (compiledAll config cs)]
  | .fragment cs => [.fragment (compiledAll config cs)]
  | other => [other]

def compiledAll (config : Config) : List Node → List Node
  | [] => []
  | n :: rest => compiled config n ++ compiledAll config rest

end

mutual

/-- The bindings of each walked node of what a node becomes, in the order of the walk. -/
def labels (config : Config) : Node → List (List Descriptor)
  | .text data => (pieces config data).map Piece.bindings
  | .element _ attributes _ cs => boundAttributes config attributes :: labelsOf config cs
  | .fragment cs => labelsOf config cs
  | _ => []

def labelsOf (config : Config) : List Node → List (List Descriptor)
  | [] => []
  | n :: rest => labels config n ++ labelsOf config rest

end

/-- The table of binding lists whose nodes are numbered from `index` on. -/
def number (index : Nat) : List (List Descriptor) → BindingTable
  | [] => []
  | bindings :: rest => entry index bindings ++ number (index + 1) rest

theorem number_append (index : Nat) (first others : List (List Descriptor)) :
    number index (first ++ others) =
      number index first ++ number (index + first.length) others := by
  induction first generalizing index with
  | nil => rfl
  | cons bindings first ih =>
    simp only [List.cons_append, number, ih (index + 1), List.length_cons, List.append_assoc]
    rw [Nat.add_assoc, Nat.add_comm 1]

/-- The entries are the binding lists that are not empty, under the numbers of their nodes. -/
theorem mem_number {index : Nat} {labels : List (List Descriptor)} {key : Int}
    {bindings : List Descriptor} :
    (key, bindings) ∈ number index labels ↔
      ∃ i : Nat, key = ((index + i : Nat) : Int) ∧ labels[i]? = some bindings ∧ bindings ≠ [] := by
  induction labels generalizing index with
  | nil => simp [number]
  | cons first rest ih =>
    rw [number, List.mem_append, ih]
    constructor
    · rintro (here | ⟨i, rfl, found, nonempty⟩)
      · cases first with
        | nil => simp [entry] at here
        | cons d ds =>
          obtain ⟨rfl, rfl⟩ : key = (index : Int) ∧ bindings = d :: ds := by
            simpa [entry] using here
          exact ⟨0, rfl, rfl, by simp⟩
      · exact ⟨i + 1, by omega, by simpa using found, nonempty⟩
    · rintro ⟨i, rfl, found, nonempty⟩
      cases i with
      | zero =>
        obtain rfl : first = bindings := by simpa using found
        cases first with
        | nil => exact absurd rfl nonempty
        | cons d ds => exact .inl (by simp [entry])
      | succ i => exact .inr ⟨i, by omega, by simpa using found, nonempty⟩

theorem number_increasing (index : Nat) (labels : List (List Descriptor)) :
    (number index labels).Pairwise (fun a b => a.1 < b.1) := by
  induction labels generalizing index with
  | nil => exact .nil
  | cons first rest ih =>
    rw [number, List.pairwise_append]
    refine ⟨by unfold entry; split <;> simp, ih (index + 1), ?_⟩
    intro a before b behind
    obtain ⟨i, key, -, -⟩ := mem_number.mp (show (b.1, b.2) ∈ number (index + 1) rest from behind)
    have here : a.1 = (index : Int) := by
      unfold entry at before
      split at before
      · cases before
      · rw [List.mem_singleton.mp before]
    omega

theorem bindings_number (index : Nat) (labels : List (List Descriptor)) :
    (number index labels).bindings = labels.flatten := by
  induction labels generalizing index with
  | nil => rfl
  | cons first rest ih =>
    have later := ih (index + 1)
    unfold BindingTable.bindings at later ⊢
    rw [number, List.flatMap_append, later, List.flatten_cons]
    cases first <;> simp [entry]

/-- Each node finds its own binding list under its number. -/
theorem find?_number (index i : Nat) (labels : List (List Descriptor)) :
    (number index labels).find? ((index + i : Nat) : Int) =
      labels[i]?.filter (fun bindings => !bindings.isEmpty) := by
  induction labels generalizing index i with
  | nil => simp [number, Entries.find?]
  | cons first rest ih =>
    cases i with
    | zero =>
      cases first with
      | nil =>
        cases found : (number (index + 1) rest).find? (index : Int) with
        | none => simpa [number, entry, Option.filter] using found
        | some bindings =>
          obtain ⟨i, key, -, -⟩ := mem_number.mp (Entries.mem_of_find? found)
          omega
      | cons d ds => simp [number, entry, Entries.find?, Option.filter]
    | succ i =>
      have apart : (index : Int) ≠ ((index + (i + 1) : Nat) : Int) := by omega
      have behind := ih (index + 1) i
      rw [Nat.add_assoc, Nat.add_comm 1] at behind
      cases first with
      | nil => simpa [number, entry] using behind
      | cons d ds =>
        rw [number, entry, if_neg (by simp), List.singleton_append, Entries.find?, if_neg apart]
        exact behind

/-- What compiling yields for some trees and their binding lists. -/
def numbered {α : Type} (index : Nat) (result : α) (bindings : List (List Descriptor)) :
    Numbered α :=
  ⟨result, number index bindings, index + bindings.length⟩

theorem staticText_eq (data : List Char) (index : Nat) :
    staticText data index =
      ((staticPiece data).map Piece.node, index + (staticPiece data).length) := by
  cases data <;> rfl

theorem number_staticPiece (data : List Char) (index : Nat) :
    number index ((staticPiece data).map Piece.bindings) = [] := by
  cases data <;> rfl

theorem cutText_eq {text : List Char} {consumed : Nat} {placeholders : List Placeholder}
    (placed : Placed text.length consumed placeholders) (index : Nat) :
    cutText index consumed (text.drop consumed) placeholders =
      .ok (numbered index ((piecesFrom text consumed placeholders).map Piece.node)
        ((piecesFrom text consumed placeholders).map Piece.bindings)) := by
  induction placeholders generalizing consumed index with
  | nil =>
    simp only [cutText, staticText_eq, piecesFrom, numbered, number_staticPiece, List.length_map]
  | cons p rest ih =>
    obtain ⟨before, inside, others⟩ := placed
    have stop := others.consumed_le
    have head := Placeholder.cut_before before (Nat.le_trans inside stop)
    have tail := Placeholder.cut_behind inside stop
    simp only [cutText, head, tail, staticText_eq, ih others, bind, Except.bind, pure, Except.pure,
      piecesFrom, numbered, List.map_append, List.map_cons, number_append, number_staticPiece,
      List.length_append, List.length_map, List.length_cons, List.nil_append, number]
    simp only [Piece.node, Piece.bindings, entry, List.isEmpty_cons, Bool.false_eq_true, if_false,
      List.cons_append, List.nil_append, Except.ok.injEq, Numbered.mk.injEq, true_and]
    omega

theorem text_eq (config : Config) (index : Nat) (data : String) :
    text config index data =
      .ok (numbered index (compiled config (.text data)) (labels config (.text data))) := by
  have := cutText_eq (Placeholder.all_placed config data) index
  simpa [text, compiled, labels, pieces] using this

theorem attributeBindings_eq {config : Config} {attributes : Attributes}
    (named : attributes.Named) :
    attributeBindings config attributes = .ok (boundAttributes config attributes) := by
  induction attributes with
  | nil => rfl
  | cons a rest ih =>
    obtain ⟨name, value⟩ := a
    obtain ⟨here, others⟩ := List.forall_mem_cons.mp named
    cases name with
    | none => exact absurd rfl here
    | some name =>
      cases found : Placeholder.ofAttribute? config value <;>
        simp [attributeBindings, found, attributeBinding, ih others, boundAttributes, bindingOf?,
          bind, Except.bind, pure, Except.pure]

end Compile

namespace Node

theorem AllAttributes.trivially (n : Node) : n.AllAttributes fun _ => True :=
  fun _ _ => trivial

theorem AllAttributes.of_element {holds : Attributes → Prop} {tag : String}
    {attributes : Attributes} {properties : Properties} {cs : List Node}
    (all : AllAttributes holds (.element tag attributes properties cs)) :
    holds attributes ∧ ∀ n ∈ allNodesOf cs, holds n.attributes :=
  List.forall_mem_cons.mp all

theorem AllAttributes.of_fragment {holds : Attributes → Prop} {cs : List Node}
    (all : AllAttributes holds (.fragment cs)) : ∀ n ∈ allNodesOf cs, holds n.attributes :=
  (List.forall_mem_cons.mp all).2

theorem AllAttributes.of_cons {holds : Attributes → Prop} {n : Node} {rest : List Node}
    (all : ∀ m ∈ allNodesOf (n :: rest), holds m.attributes) :
    n.AllAttributes holds ∧ ∀ m ∈ allNodesOf rest, holds m.attributes :=
  List.forall_mem_append.mp all

end Node

namespace Compile

mutual

/-- The compiler's answer for a node other than a text. -/
theorem node_eq (config : Config) (index : Nat) : (n : Node) → n.isText = false →
    n.AllAttributes Attributes.Named → ∃ result, compiled config n = [result] ∧
      node config index n = .ok (numbered index result (labels config n))
  | .text _, text, _ => by cases text
  | .element tag attributes properties cs, _, named => by
    obtain ⟨here, below⟩ := named.of_element
    refine ⟨_, rfl, ?_⟩
    simp only [node, attributeBindings_eq here, nodes_eq config (index + 1) cs below, bind,
      Except.bind, pure, Except.pure, numbered, labels, number, List.length_cons]
    rw [Nat.add_assoc, Nat.add_comm 1]
  | .fragment cs, _, named => by
    refine ⟨_, rfl, ?_⟩
    simp only [node, nodes_eq config index cs named.of_fragment, bind, Except.bind, pure,
      Except.pure, numbered, labels]
  | .comment _, _, _ | .bare, _, _ | .bareParent _, _, _ => ⟨_, rfl, rfl⟩

theorem nodes_eq (config : Config) (index : Nat) : (ns : List Node) →
    (∀ m ∈ Node.allNodesOf ns, m.attributes.Named) →
      nodes config index ns = .ok (numbered index (compiledAll config ns) (labelsOf config ns))
  | [], _ => rfl
  | n :: rest, named => by
    obtain ⟨first, others⟩ := Node.AllAttributes.of_cons named
    have behind := nodes_eq config (index + (labels config n).length) rest others
    cases kind : n.isText with
    | true =>
      cases n with
      | text data =>
        simp only [nodes, text_eq, bind, Except.bind, numbered, behind, pure, Except.pure,
          compiledAll, labelsOf, number_append, List.length_append, Nat.add_assoc]
      | _ => cases kind
    | false =>
      obtain ⟨result, single, done⟩ := node_eq config index n kind first
      have step : nodes config index (n :: rest) = (do
          let first ← node config index n
          let later ← nodes config first.next rest
          return ⟨first.result :: later.result, first.table ++ later.table, later.next⟩) := by
        cases n <;> first | rfl | cases kind
      simp only [step, done, bind, Except.bind, numbered, behind, pure, Except.pure, compiledAll,
        single, labelsOf, number_append, List.length_append, Nat.add_assoc, List.singleton_append]

end

end Compile
end LiveTemplate
