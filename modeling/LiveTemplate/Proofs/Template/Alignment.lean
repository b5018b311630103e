import LiveTemplate.Proofs.Template.Labels

/-! Alignment of a compiled template. The numbers of its table are the places of the walk over its
content, on any copy of it, and the table lists the bindings of the source in document order. -/
namespace LiveTemplate

namespace Node

mutual

/-- The bindings of a source in document order: of an element those of its attributes before those
of its children, of a text all its placeholders. -/
def bindings (config : Config) : Node → List Descriptor
  | text data => (Placeholder.all config data).map fun p => ⟨.text, p.expression, none⟩
  | element _ attributes _ cs =>
    attributes.filterMap (Compile.bindingOf? config) ++ bindingsOf config cs
  | fragment cs => bindingsOf config cs
  | comment _ | bare | bareParent _ => []

def bindingsOf (config : Config) : List Node → List Descriptor
  | [] => []
  | n :: rest => bindings config n ++ bindingsOf config rest

end

end Node

namespace Compile

theorem flatten_staticPiece (data : List Char) :
    ((staticPiece data).map Piece.bindings).flatten = [] := by
  cases data <;> rfl

theorem flatten_piecesFrom (text : List Char) (consumed : Nat) (placeholders : List Placeholder) :
    ((piecesFrom text consumed placeholders).map Piece.bindings).flatten =
      placeholders.map textDescriptor := by
  induction placeholders generalizing consumed with
  | nil => exact flatten_staticPiece _
  | cons p rest ih =>
    rw [piecesFrom, List.map_append, List.flatten_append, flatten_staticPiece, List.map_cons,
      List.flatten_cons, ih]
    rfl

mutual

theorem flatten_labels (config : Config) : (n : Node) →
    (labels config n).flatten = n.bindings config
  | .text data => flatten_piecesFrom _ _ _
  | .element _ attributes _ cs => by
    rw [labels, List.flatten_cons, flatten_labelsOf config cs]
    rfl
  | .fragment cs => flatten_labelsOf config cs
  | .comment _ | .bare | .bareParent _ => rfl

theorem flatten_labelsOf (config : Config) : (ns : List Node) →
    (labelsOf config ns).flatten = Node.bindingsOf config ns
  | [] => rfl
  | n :: rest => by
    rw [labelsOf, List.flatten_append, flatten_labels config n, flatten_labelsOf config rest]
    rfl

end

end Compile

/-- A walked node with the bindings it may have: one text binding at an empty text, or bindings of
attributes and properties at an element. -/
def Node.Carries (n : Node) (bindings : List Descriptor) : Prop :=
  (n = .text "" ∧ ∃ expression, bindings = [⟨.text, expression, none⟩]) ∨
  (n.isElement = true ∧ bindings ≠ [] ∧ ∀ d ∈ bindings,
    d.kind = .attributeValue ∨ d.kind = .property ∨ d.kind = .booleanAttribute)

theorem Compile.Labelled.carries {config : Config} {holds : Attributes → Prop} {n : Node}
    {bindings : List Descriptor} (labelled : Labelled config holds n bindings)
    (nonempty : bindings ≠ []) : n.Carries bindings := by
  cases labelled with
  | hole p => exact .inl ⟨rfl, p.expression, rfl⟩
  | static => exact absurd rfl nonempty
  | element => exact .inr ⟨rfl, nonempty, fun _ => kind_of_boundAttributes⟩

namespace Template

/-- What it means that a compiled template numbers its nodes as the walk meets them. -/
structure Aligned (config : Config) (source : Node) (made : Compiled) : Prop where
  count : made.nodeCount = made.template.content.walk.length
  copies : ∃ copy, made.template.content.clone = .ok copy ∧ copy.walk.length = made.nodeCount
  keys : (made.template.table.map Prod.fst).Nodup
  entries : ∀ key bindings, (key, bindings) ∈ made.template.table →
    ∃ index : Nat, key = (index : Int) ∧ index < made.nodeCount ∧
      ∃ n, made.template.content.walk[index]? = some n ∧ n.Carries bindings
  unbound : ∀ (index : Nat) (data : String),
    made.template.content.walk[index]? = some (.text data) →
      made.template.table.find? (index : Int) = none → data ≠ ""
  order : made.template.table.sorted.bindings = source.bindings config
  /-- A fresh instance has these bindings as parts, each with the path to the node whose number
  it was compiled under. -/
  parts : ∃ fresh, Instance.ofTemplate made.template = .ok fresh ∧
    fresh.parts.map Part.descriptor = source.bindings config ∧
    ∀ p ∈ fresh.parts, ∃ (index : Nat) (n : Node) (bindings : List Descriptor),
      fresh.content.walk[index]? = some n ∧ fresh.content.at? p.path = some n ∧
      made.template.table.find? (index : Int) = some bindings ∧ p.descriptor ∈ bindings

namespace Outcome

variable {config : Config} {source : Node} {made : Compiled}

theorem walk_length (outcome : Outcome config source made)
    (named : source.AllAttributes Attributes.Named) :
    made.template.content.walk.length = made.nodeCount := by
  rw [Node.walk_eq_preorder, (outcome.labelled named).length_eq, outcome.count]

theorem find?_table (outcome : Outcome config source made) (index : Nat) :
    made.template.table.find? (index : Int) =
      (Compile.labels config source)[index]?.filter (fun bindings => !bindings.isEmpty) := by
  have found := Compile.find?_number 0 index (Compile.labels config source)
  rwa [Nat.zero_add, ← outcome.table] at found

theorem entries (outcome : Outcome config source made)
    (named : source.AllAttributes Attributes.Named) {key : Int} {bindings : List Descriptor}
    (member : (key, bindings) ∈ made.template.table) :
    ∃ index : Nat, key = (index : Int) ∧ index < made.nodeCount ∧
      ∃ n, made.template.content.walk[index]? = some n ∧ n.Carries bindings := by
  rw [outcome.table] at member
  obtain ⟨index, rfl, label, nonempty⟩ := Compile.mem_number.mp member
  obtain ⟨n, walked, labelled⟩ := outcome.labelled_at named label
  rw [← Node.walk_eq_preorder] at walked
  refine ⟨index, by rw [Nat.zero_add], ?_, n, walked, labelled.carries nonempty⟩
  rw [← outcome.walk_length named]
  exact (List.getElem?_eq_some_iff.mp walked).1

theorem unbound (outcome : Outcome config source made)
    (named : source.AllAttributes Attributes.Named) {index : Nat} {data : String}
    (walked : made.template.content.walk[index]? = some (.text data))
    (missing : made.template.table.find? (index : Int) = none) : data ≠ "" := by
  have inside : index < (Compile.labels config source).length := by
    rw [← outcome.count, ← outcome.walk_length named]
    exact (List.getElem?_eq_some_iff.mp walked).1
  obtain ⟨n, same, labelled⟩ := outcome.labelled_at named (List.getElem?_eq_getElem inside)
  rw [← Node.walk_eq_preorder, walked, Option.some.injEq] at same
  subst same
  rw [outcome.find?_table, List.getElem?_eq_getElem inside] at missing
  generalize (Compile.labels config source)[index] = bindings at labelled missing
  cases labelled with
  | hole p => cases missing
  | static _ nonempty => exact nonempty

theorem sorted_bindings (outcome : Outcome config source made) :
    made.template.table.sorted.bindings = source.bindings config := by
  have increasing := Compile.number_increasing 0 (Compile.labels config source)
  have sorted : (Compile.number 0 (Compile.labels config source)).sorted =
      Compile.number 0 (Compile.labels config source) := by
    refine List.mergeSort_of_pairwise (increasing.imp ?_)
    intro a b lt
    simpa using Int.le_of_lt lt
  rw [outcome.table, sorted, Compile.bindings_number, Compile.flatten_labels]

end Outcome

end Template

namespace Instance

theorem map_descriptor_ofLabels {content : Node} {labels : List (List Descriptor)}
    (length : content.spots.length = labels.length) :
    (ofLabels content labels).parts.map Part.descriptor = labels.flatten := by
  unfold ofLabels
  generalize content.spots = spots at length
  induction spots generalizing labels with
  | nil => cases labels <;> simp_all
  | cons spot spots ih =>
    cases labels with
    | nil => simp at length
    | cons first rest =>
      have here : (partsAt spot first).map Part.descriptor = first := by
        simp [partsAt, Part.ofDescriptor, Function.comp_def]
      have later : (List.zipWith partsAt spots rest).flatten.map Part.descriptor = rest.flatten :=
        ih (by simpa using length)
      rw [List.zipWith_cons_cons, List.flatten_cons, List.map_append, here, later,
        List.flatten_cons]

end Instance

namespace Template

theorem Outcome.parts {config : Config} {source : Node} {made : Compiled}
    (outcome : Outcome config source made) :
    ∃ fresh, Instance.ofTemplate made.template = .ok fresh ∧
      fresh.parts.map Part.descriptor = source.bindings config ∧
      ∀ p ∈ fresh.parts, ∃ (index : Nat) (n : Node) (bindings : List Descriptor),
        fresh.content.walk[index]? = some n ∧ fresh.content.at? p.path = some n ∧
        made.template.table.find? (index : Int) = some bindings ∧ p.descriptor ∈ bindings := by
  refine ⟨_, Instance.ofTemplate_eq outcome, ?_, ?_⟩
  · rw [Instance.map_descriptor_ofLabels outcome.length_spots, Compile.flatten_labels]
  · intro p member
    obtain ⟨index, ⟨path, n⟩, bindings, spot, label, d, bound, rfl⟩ := Instance.mem_parts member
    rw [Instance.ofLabels]
    refine ⟨index, n, bindings, ?_, Node.at?_of_mem_spots (List.mem_of_getElem? spot), ?_, bound⟩
    · rw [Node.walk_eq_preorder, ← Node.map_snd_spots, List.getElem?_map, spot]
      rfl
    · rw [outcome.find?_table, label]
      cases bindings with
      | nil => cases bound
      | cons first rest => rfl

/-- Compiling a source succeeds, and the numbers, the table and the parts of every instance agree
with the walk. -/
theorem compile_aligned (config : Config) {source : Node} (fit : source.Compilable) :
    ∃ made, Template.compile config source = .ok made ∧ Aligned config source made := by
  obtain ⟨made, done, outcome⟩ := compile_outcome config fit
  have length := outcome.walk_length fit.named
  refine ⟨made, done, length.symm, ⟨_, by rw [Node.clone, if_pos outcome.clonable], length⟩, ?_,
    fun _ _ => outcome.entries fit.named, fun _ _ => outcome.unbound fit.named,
    outcome.sorted_bindings, outcome.parts⟩
  rw [outcome.table, List.Nodup, List.pairwise_map]
  exact (Compile.number_increasing 0 _).imp fun lt => Int.ne_of_lt lt

def squareBrackets : Config :=
  { Config.standard with
    opening := "[", closing := "]", opening_ne := by decide, closing_ne := by decide }

/-- An empty text, a comment, bound attributes between static ones, adjacent texts and placeholders,
and a nested fragment. -/
def mixedSource : Node :=
  .fragment [.text "", .comment "[note]", .element "p"
    [(some "id", some "a"), (some "?hidden", some "[off]"), (some "title", none),
      (some ".items", some "x[rows][more]")] []
    [.text "[a][b] and", .text "[]]c]", .fragment [.text "d[e]", .element "br" [] [] []]]]

theorem mixedSource_compilable : mixedSource.Compilable :=
  ⟨by decide, by decide, by unfold Node.AllAttributes; decide⟩

theorem mixedSource_aligned : mixedSource.Compilable ∧
    ∃ made, Template.compile squareBrackets mixedSource = .ok made ∧
      Aligned squareBrackets mixedSource made :=
  ⟨mixedSource_compilable, compile_aligned squareBrackets mixedSource_compilable⟩

end Template
end LiveTemplate
