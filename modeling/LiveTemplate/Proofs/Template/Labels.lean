import LiveTemplate.Proofs.Template.Numbering
import LiveTemplate.Template.Instance

/-! Compiled trees with their binding lists side by side. Each walked node meets the list that was
made for it, so that an instance binds every part to the node it belongs to. -/
namespace LiveTemplate

namespace Compile

/-- Which binding list a walked node of compiled content has: a hole has its placeholder's, static
text has none, and an element has those of the attributes it lost. -/
inductive Labelled (config : Config) (holds : Attributes → Prop) :
    Node → List Descriptor → Prop where
  | hole (p : Placeholder) : Labelled config holds (.text "") [textDescriptor p]
  | static (data : String) : data ≠ "" → Labelled config holds (.text data) []
  | element (tag : String) (attributes : Attributes) (properties : Properties) (cs : List Node) :
      holds attributes →
      Labelled config holds (.element tag (staticAttributes config attributes) properties cs)
        (boundAttributes config attributes)

theorem kind_of_boundAttributes {config : Config} {attributes : Attributes}
    {d : Descriptor} (member : d ∈ boundAttributes config attributes) :
    d.kind = .attributeValue ∨ d.kind = .property ∨ d.kind = .booleanAttribute := by
  obtain ⟨⟨name, value⟩, -, bound⟩ := List.mem_filterMap.mp member
  cases name with
  | none => cases bound
  | some name =>
    obtain ⟨p, -, rfl⟩ := Option.map_eq_some_iff.mp bound
    simp only [BindingKind.ofAttribute]
    split
    · exact .inr (.inr rfl)
    · split
      · exact .inr (.inl rfl)
      · exact .inl rfl

theorem static_of_mem_piecesFrom {text data : List Char} {consumed : Nat}
    {placeholders : List Placeholder}
    (member : Piece.static data ∈ piecesFrom text consumed placeholders) : data ≠ [] := by
  have ofStatic {given : List Char} (member : Piece.static data ∈ staticPiece given) :
      data ≠ [] := by
    unfold staticPiece at member
    split at member
    · cases member
    · cases List.mem_singleton.mp member
      simpa using ‹¬data.isEmpty = true›
  induction placeholders generalizing consumed with
  | nil => exact ofStatic member
  | cons p rest ih =>
    rcases List.mem_append.mp member with here | behind
    · exact ofStatic here
    · rcases List.mem_cons.mp behind with hole | later
      · cases hole
      · exact ih later

theorem preorders_map_node (pieces : List Piece) :
    Node.preorders (pieces.map Piece.node) = pieces.map Piece.node := by
  induction pieces with
  | nil => rfl
  | cons piece rest ih => cases piece <;> simp [Node.preorders, Node.preorder, Piece.node, ih]

theorem labelled_pieces (config : Config) (holds : Attributes → Prop) (data : String) :
    List.Forall₂ (Labelled config holds) ((pieces config data).map Piece.node)
      ((pieces config data).map Piece.bindings) := by
  rw [List.forall₂_map_left_iff, List.forall₂_map_right_iff, List.forall₂_same]
  intro piece member
  cases piece with
  | hole p => exact .hole p
  | static data =>
    refine .static _ ?_
    intro empty
    exact static_of_mem_piecesFrom member (by simpa using empty)

mutual

theorem labelled_compiled (config : Config) {holds : Attributes → Prop} : (n : Node) →
    n.AllAttributes holds →
      List.Forall₂ (Labelled config holds) (Node.preorders (compiled config n)) (labels config n)
  | .text data, _ => by
    rw [compiled, preorders_map_node]
    exact labelled_pieces config holds data
  | .element tag attributes properties cs, all => by
    obtain ⟨here, below⟩ := all.of_element
    rw [compiled, Node.preorders, Node.preorders, List.append_nil]
    exact .cons (.element tag attributes properties _ here) (labelled_compiledAll config cs below)
  | .fragment cs, all => by
    rw [compiled, Node.preorders, Node.preorders, List.append_nil]
    exact labelled_compiledAll config cs all.of_fragment
  | .comment _, _ | .bare, _ | .bareParent _, _ => .nil

theorem labelled_compiledAll (config : Config) {holds : Attributes → Prop} : (ns : List Node) →
    (∀ m ∈ Node.allNodesOf ns, holds m.attributes) →
      List.Forall₂ (Labelled config holds) (Node.preorders (compiledAll config ns))
        (labelsOf config ns)
  | [], _ => .nil
  | n :: rest, all => by
    obtain ⟨first, others⟩ := Node.AllAttributes.of_cons all
    rw [compiledAll, Node.preorders_append, labelsOf]
    have here := labelled_compiled config n first
    have behind := labelled_compiledAll config rest others
    exact List.rel_append here behind

end

theorem areClonable_append (ms ns : List Node) :
    Node.areClonable (ms ++ ns) = (Node.areClonable ms && Node.areClonable ns) := by
  induction ms with
  | nil => rfl
  | cons m ms ih => simp [Node.areClonable, ih, Bool.and_assoc]

mutual

/-- Compiling keeps what makes a tree clonable. -/
theorem areClonable_compiled (config : Config) : (n : Node) →
    Node.areClonable (compiled config n) = n.isClonable
  | .text data => by
    rw [compiled, Node.isClonable]
    induction pieces config data with
    | nil => rfl
    | cons piece rest ih =>
      cases piece <;> simpa [Node.areClonable, Piece.node, Node.isClonable] using ih
  | .element _ _ _ cs => by
    simp [compiled, Node.areClonable, Node.isClonable, areClonable_compiledAll config cs]
  | .fragment cs => by
    simp [compiled, Node.areClonable, Node.isClonable, areClonable_compiledAll config cs]
  | .comment _ | .bare | .bareParent _ => by simp [compiled, Node.areClonable, Node.isClonable]

theorem areClonable_compiledAll (config : Config) : (ns : List Node) →
    Node.areClonable (compiledAll config ns) = Node.areClonable ns
  | [] => rfl
  | n :: rest => by
    rw [compiledAll, areClonable_append, areClonable_compiled config n,
      areClonable_compiledAll config rest, Node.areClonable]

end

end Compile

/-- What compiling a source yields, with the walked nodes of the content labelled. -/
structure Template.Outcome (config : Config) (source : Node) (made : Template.Compiled) :
    Prop where
  content : Compile.compiled config source = [made.template.content]
  table : made.template.table = Compile.number 0 (Compile.labels config source)
  count : made.nodeCount = (Compile.labels config source).length
  clonable : made.template.content.isClonable = true

/-- Compiling succeeds on whatever can be compiled. -/
theorem Template.compile_outcome (config : Config) {source : Node} (fit : source.Compilable) :
    ∃ made, Template.compile config source = .ok made ∧ Outcome config source made := by
  have kind : source.isText = false := by
    have root := fit.root
    cases source <;> simp_all [Node.isRoot, Node.isText]
  obtain ⟨content, single, done⟩ := Compile.node_eq config 0 source kind fit.named
  have clonable := Compile.areClonable_compiled config source
  rw [single, fit.clonable] at clonable
  refine ⟨⟨⟨content, Compile.number 0 (Compile.labels config source)⟩,
    0 + (Compile.labels config source).length⟩, ?_, ?_⟩
  · simp [Template.compile, fit.root, Node.clone, fit.clonable, done, Compile.numbered, bind,
      Except.bind, pure, Except.pure]
  · exact ⟨single, rfl, Nat.zero_add _, by simpa [Node.areClonable] using clonable⟩

theorem Template.Outcome.labelled {config : Config} {source : Node} {made : Template.Compiled}
    (outcome : Outcome config source made) {holds : Attributes → Prop}
    (all : source.AllAttributes holds) :
    List.Forall₂ (Compile.Labelled config holds) made.template.content.preorder
      (Compile.labels config source) := by
  have := Compile.labelled_compiled config source all
  rwa [outcome.content, Node.preorders, Node.preorders, List.append_nil] at this

theorem Template.Outcome.length_spots {config : Config} {source : Node} {made : Template.Compiled}
    (outcome : Outcome config source made) :
    made.template.content.spots.length = (Compile.labels config source).length := by
  have labelled := outcome.labelled (.trivially source)
  rw [← labelled.length_eq, ← Node.map_snd_spots, List.length_map]

/-- The walked node under a number and the bindings that belong to it. -/
theorem Template.Outcome.labelled_at {config : Config} {source : Node} {made : Template.Compiled}
    (outcome : Outcome config source made) {holds : Attributes → Prop}
    (all : source.AllAttributes holds) {index : Nat} {bindings : List Descriptor}
    (label : (Compile.labels config source)[index]? = some bindings) :
    ∃ n, made.template.content.preorder[index]? = some n ∧
      Compile.Labelled config holds n bindings := by
  obtain ⟨inside, found⟩ := List.getElem?_eq_some_iff.mp label
  have labelled := outcome.labelled all
  have bound : index < made.template.content.preorder.length := by
    rw [labelled.length_eq]; exact inside
  refine ⟨made.template.content.preorder[index], List.getElem?_eq_getElem bound, ?_⟩
  simpa [found] using labelled.get bound inside

namespace Instance

/-- The parts of one walked node. -/
def partsAt (spot : Path × Node) (bindings : List Descriptor) : List Part :=
  bindings.map (Part.ofDescriptor spot.1 spot.2.type)

/-- The fresh instance of a tree whose walked nodes have the given bindings. -/
def ofLabels (content : Node) (labels : List (List Descriptor)) : Instance :=
  ⟨content, (List.zipWith partsAt content.spots labels).flatten⟩

/-- A table that has under each number its node's bindings binds them all, in order. -/
theorem bind_eq {table : BindingTable} {index : Nat} {labels : List (List Descriptor)}
    {spots : List (Path × Node)} (length : spots.length = labels.length)
    (found : ∀ i : Nat, (table.find? ((index + i : Nat) : Int)).getD [] = (labels[i]?).getD []) :
    Instance.bind table index spots = (List.zipWith partsAt spots labels).flatten := by
  induction spots generalizing index labels with
  | nil => simp [Instance.bind]
  | cons spot spots ih =>
    cases labels with
    | nil => simp at length
    | cons first rest =>
      have here : (table.find? (index : Int)).getD [] = first := by simpa using found 0
      have others : Instance.bind table (index + 1) spots =
          (List.zipWith partsAt spots rest).flatten := by
        refine ih (by simpa using length) ?_
        intro i
        rw [Nat.add_assoc, Nat.add_comm 1]
        simpa using found (i + 1)
      rw [Instance.bind, here, others]
      rfl

theorem ofTemplate_eq {config : Config} {source : Node} {made : Template.Compiled}
    (outcome : Template.Outcome config source made) :
    Instance.ofTemplate made.template = 
      .ok (ofLabels made.template.content (Compile.labels config source)) := by
  have found (i : Nat) : (made.template.table.find? ((0 + i : Nat) : Int)).getD [] =
      ((Compile.labels config source)[i]?).getD [] := by
    rw [outcome.table, Compile.find?_number]
    cases (Compile.labels config source)[i]? with
    | none => rfl
    | some bindings => cases bindings <;> rfl
  have parts := bind_eq outcome.length_spots found
  simp [Instance.ofTemplate, ofLabels, Node.clone, outcome.clonable, parts, Bind.bind, Except.bind,
    pure, Except.pure]

/-- A part comes from a spot of the walk and from the list that stands beside it. -/
theorem mem_parts {spots : List (Path × Node)} {labels : List (List Descriptor)} {p : Part}
    (member : p ∈ (List.zipWith partsAt spots labels).flatten) :
    ∃ (index : Nat) (spot : Path × Node) (bindings : List Descriptor),
      spots[index]? = some spot ∧ labels[index]? = some bindings ∧
      ∃ d ∈ bindings, p = Part.ofDescriptor spot.1 spot.2.type d := by
  obtain ⟨parts, zipped, inside⟩ := List.mem_flatten.mp member
  obtain ⟨index, found⟩ := List.mem_iff_getElem?.mp zipped
  obtain ⟨spot, bindings, atSpot, atLabel, rfl⟩ := List.getElem?_zipWith_eq_some.mp found
  obtain ⟨d, bound, rfl⟩ := List.mem_map.mp inside
  exact ⟨index, spot, bindings, atSpot, atLabel, d, bound, rfl⟩

/-- A part of a fresh instance is at the node whose bindings its own is among. -/
theorem part_at {config : Config} {source : Node} {made : Template.Compiled}
    (outcome : Template.Outcome config source made) {holds : Attributes → Prop}
    (all : source.AllAttributes holds) {p : Part}
    (member : p ∈ (ofLabels made.template.content (Compile.labels config source)).parts) :
    ∃ (n : Node) (bindings : List Descriptor), made.template.content.at? p.path = some n ∧
      p = .ofDescriptor p.path n.type p.descriptor ∧ p.descriptor ∈ bindings ∧
      Compile.Labelled config holds n bindings := by
  obtain ⟨index, ⟨path, n⟩, bindings, spot, label, d, bound, rfl⟩ := mem_parts member
  obtain ⟨m, walked, labelled⟩ := outcome.labelled_at all label
  have same : m = n := by
    rw [← Node.map_snd_spots, List.getElem?_map, spot] at walked
    exact (Option.some.inj walked).symm
  subst same
  exact ⟨m, bindings, Node.at?_of_mem_spots (List.mem_of_getElem? spot), rfl, bound, labelled⟩

theorem create_eq {t : Template} {fresh : Instance} (made : ofTemplate t = .ok fresh) {σ : Type}
    (host : Host σ) (patch : Patch) (s : σ) :
    create host t (some patch) s = .ok { fresh.update host patch s with
      events := .instantiated fresh.parts.length :: (fresh.update host patch s).events } := by
  simp [create, made, Bind.bind, Except.bind, pure, Except.pure]

end Instance
end LiveTemplate
