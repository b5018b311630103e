import LiveTemplate.Function.Stock
import LiveTemplate.Proofs.Markup.Written
import LiveTemplate.Proofs.Template.Alignment
import LiveTemplate.Proofs.Template.Seats

/-! Substitution in the source. A tree's placeholders are replaced where they stand, without
numbers, tables or parts; an instance that is created with a context shows the same markup. -/
namespace LiveTemplate

open Placeholder (slice)

section Reference

variable {σ : Type} (host : Host σ) (known : Knowledge) (s : σ)

/-- What stands in place of a placeholder: what is to be read of its value, and nothing without a
value. -/
def Placeholder.shown (p : Placeholder) : Except Error (List Char) := do
  match ← Expression.value host known p.expression s with
  | some v => return (← v.readable host.shelf).toList
  | none => return []

/-- What a text has from `consumed` on, with its placeholders replaced. -/
def substituteFrom (text : List Char) (consumed : Nat) :
    List Placeholder → Except Error (List Char)
  | [] => return text.drop consumed
  | p :: rest => do
    let shown ← p.shown host known s
    let later ← substituteFrom text p.stop rest
    return slice text consumed p.start ++ shown ++ later

/-- A bound attribute is set to what is to be read of its value, or forced by its truth; without a
value, and for properties, the attributes stay as they are. -/
def substituteAttribute (attributes : Attributes) (d : Descriptor) : Except Error Attributes := do
  match ← Expression.value host known d.expression s with
  | none => return attributes
  | some v => match d.kind with
    | .attributeValue => return attributes.set d.name (some (← v.readable host.shelf))
    | .booleanAttribute => return attributes.force d.name (← v.tested host.shelf)
    | _ => return attributes

namespace Node

mutual

/-- The source with all its placeholders replaced. An element keeps its unbound attributes, and the
bound ones are put to them in their order. -/
def substitute (config : Config) : Node → Except Error Node
  | text data => do
    return text (String.ofList
      (← substituteFrom host known s data.toList 0 (Placeholder.all config data)))
  | element tag attributes properties cs => do
    let put ← (Compile.boundAttributes config attributes).foldlM
      (substituteAttribute host known s) (Compile.staticAttributes config attributes)
    return element tag put properties (← substituteAll config cs)
  | fragment cs => return fragment (← substituteAll config cs)
  | other => return other

def substituteAll (config : Config) : List Node → Except Error (List Node)
  | [] => return []
  | n :: rest => do return (← substitute config n) :: (← substituteAll config rest)

end

end Node

end Reference

namespace Compile

open Markup (renderNode renderNodes showText)
open Node (editAllAmong)

section Rendering

variable {σ : Type} (host : Host σ) (known : Knowledge) (s : σ)

/-- What trees show once every binding at them has been applied. -/
def shownAmong (raw : Bool) (ns : List Node) (labels : List (List Descriptor)) :
    Except Error (List Char) :=
  (gather (Descriptor.effect host known · s) (seatsAmong ns labels)).map fun edits =>
    renderNodes raw (editAllAmong edits ns)

theorem shownAmong_append (raw : Bool) {ms : List Node} {first : List (List Descriptor)}
    (length : (Node.spotsAmong ms).length = first.length) (ns : List Node)
    (others : List (List Descriptor)) :
    shownAmong host known s raw (ms ++ ns) (first ++ others) = (do
      let here ← shownAmong host known s raw ms first
      let behind ← shownAmong host known s raw ns others
      return here ++ behind) := by
  unfold shownAmong
  rw [seatsAmong_append length, gather_append, gather_map]
  cases here : gather (Descriptor.effect host known · s) (seatsAmong ms first) with
  | error error => rfl
  | ok edits =>
    cases gather (Descriptor.effect host known · s) (seatsAmong ns others) with
    | error error => rfl
    | ok later =>
      have within : ∀ e ∈ edits, ∃ index rest, e.1 = index :: rest ∧ index < ms.length := by
        intro e member
        obtain ⟨seat, inside, same⟩ := path_of_mem_gather here member
        rw [← same]
        exact within_of_mem_seatsAmong inside
      simp only [Except.map, bind, Except.bind, pure, Except.pure,
        Node.editAllAmong_apart within, Markup.renderNodes_append]

theorem shownAmong_static (raw : Bool) (data : List Char) :
    shownAmong host known s raw ((staticPiece data).map Piece.node)
      ((staticPiece data).map Piece.bindings) = .ok (showText raw data) := by
  cases data with
  | nil => cases raw <;> rfl
  | cons c rest =>
    show Except.ok (renderNode raw (.text (String.ofList (c :: rest))) ++ []) = _
    rw [List.append_nil, Markup.renderNode_text]

theorem shownAmong_hole (raw : Bool) (p : Placeholder) :
    shownAmong host known s raw [.text ""] [[textDescriptor p]] =
      (p.shown host known s).map (showText raw) := by
  have seats : seatsAmong [.text ""] [[textDescriptor p]] = [([0], textDescriptor p)] := rfl
  have expression : (textDescriptor p).expression = p.expression := rfl
  have cast (v : Value) : (textDescriptor p).cast host.shelf v =
      (v.readable host.shelf).map fun text => ⟨.str text, .setText text⟩ := by
    rw [← Descriptor.castText_eq_readable]
    rfl
  unfold shownAmong Placeholder.shown
  simp only [seats, gather, Descriptor.effect, expression, cast, bind, Except.bind, pure,
    Except.pure]
  cases Expression.value host known p.expression s with
  | error error => rfl
  | ok present =>
    cases present with
    | none => cases raw <;> rfl
    | some v =>
      dsimp only
      cases v.readable host.shelf with
      | error error => rfl
      | ok text =>
        show Except.ok (renderNode raw (.text text) ++ []) = Except.ok (showText raw text.toList)
        rw [List.append_nil, ← Markup.renderNode_text, String.ofList_toList]

theorem length_spotsAmong_pieces (pieces : List Piece) :
    (Node.spotsAmong (pieces.map Piece.node)).length = (pieces.map Piece.bindings).length := by
  rw [← List.length_map (f := Prod.snd), Node.map_snd_spotsAmong, preorders_map_node,
    List.length_map, List.length_map]

/-- The texts that a text is split into show what the text does with its placeholders replaced. -/
theorem shownAmong_pieces (raw : Bool) (text : List Char) (consumed : Nat)
    (placeholders : List Placeholder) :
    shownAmong host known s raw ((piecesFrom text consumed placeholders).map Piece.node)
        ((piecesFrom text consumed placeholders).map Piece.bindings) =
      (substituteFrom host known s text consumed placeholders).map (showText raw) := by
  induction placeholders generalizing consumed with
  | nil => exact shownAmong_static host known s raw _
  | cons p rest ih =>
    have hole : shownAmong host known s raw ([Piece.hole p].map Piece.node)
        ([Piece.hole p].map Piece.bindings) = (p.shown host known s).map (showText raw) :=
      shownAmong_hole host known s raw p
    rw [piecesFrom, ← List.singleton_append]
    simp only [List.map_append]
    rw [shownAmong_append host known s raw (length_spotsAmong_pieces _), shownAmong_static,
      shownAmong_append host known s raw (length_spotsAmong_pieces _), hole, ih, substituteFrom]
    cases p.shown host known s with
    | error error => rfl
    | ok shown =>
      cases substituteFrom host known s text p.stop rest with
      | error error => rfl
      | ok later =>
        simp [Except.map, bind, Except.bind, pure, Except.pure, Markup.showText_append]

/-- A bound attribute is substituted by the edit that its binding makes. -/
theorem substituteAttribute_eq {d : Descriptor}
    (kind : d.kind = .attributeValue ∨ d.kind = .property ∨ d.kind = .booleanAttribute)
    (attributes : Attributes) :
    substituteAttribute host known s attributes d =
      (d.effect host known s).map fun applied =>
        applied.toList.foldl (fun attributes a => a.edit.onAttributes attributes) attributes := by
  simp only [substituteAttribute, Descriptor.effect, bind, Except.bind, pure, Except.pure]
  cases Expression.value host known d.expression s with
  | error error => rfl
  | ok present =>
    cases present with
    | none => rfl
    | some v =>
      dsimp only [Descriptor.cast]
      rcases kind with kind | kind | kind
      · simp only [kind, Descriptor.castText_eq_readable]
        cases v.readable host.shelf <;> rfl
      · simp only [kind]
        rfl
      · simp only [kind, Descriptor.castFlag_eq_tested]
        cases v.tested host.shelf <;> rfl

theorem foldlM_substituteAttribute {bindings : List Descriptor}
    (kinds : ∀ d ∈ bindings,
      d.kind = .attributeValue ∨ d.kind = .property ∨ d.kind = .booleanAttribute)
    (path : Path) (attributes : Attributes) :
    bindings.foldlM (substituteAttribute host known s) attributes =
      (gather (Descriptor.effect host known · s) (bindings.map (Prod.mk path))).map
        fun edits => edits.foldl (fun attributes e => e.2.onAttributes attributes) attributes := by
  induction bindings generalizing attributes with
  | nil => rfl
  | cons d rest ih =>
    obtain ⟨kind, others⟩ := List.forall_mem_cons.mp kinds
    rw [List.foldlM_cons, substituteAttribute_eq host known s kind, List.map_cons, gather]
    cases d.effect host known s with
    | error error => rfl
    | ok applied =>
      simp only [Except.map, bind, Except.bind, ih others]
      cases gather (Descriptor.effect host known · s) (rest.map (Prod.mk path)) with
      | error error => rfl
      | ok edits =>
        simp only [pure, Except.pure, List.foldl_append, List.foldl_map]

/-- Edits that are gathered among children are edits below their parent. -/
theorem below_of_gathered {cs : List Node} {labels : List (List Descriptor)}
    {effect : Descriptor → Except Error (Option Applied)} {edits : List (Path × Edit)}
    (gathered : gather effect (seatsAmong cs labels) = .ok edits) : ∀ e ∈ edits, e.1 ≠ [] := by
  intro e member
  obtain ⟨seat, inside, same⟩ := path_of_mem_gather gathered member
  obtain ⟨index, rest, path, -⟩ := within_of_mem_seatsAmong inside
  simp [← same, path]

theorem here_of_gathered {bindings : List Descriptor}
    {effect : Descriptor → Except Error (Option Applied)} {edits : List (Path × Edit)}
    (gathered : gather effect (bindings.map (Prod.mk [])) = .ok edits) : ∀ e ∈ edits, e.1 = [] := by
  intro e member
  obtain ⟨seat, inside, same⟩ := path_of_mem_gather gathered member
  obtain ⟨d, -, rfl⟩ := List.mem_map.mp inside
  exact same.symm

theorem shownAmong_fragment (raw : Bool) (cs : List Node) (labels : List (List Descriptor)) :
    shownAmong host known s raw [.fragment cs] labels =
      shownAmong host known s raw cs labels := by
  unfold shownAmong
  rw [seatsAmong_singleton, seatsIn_fragment, gather_map]
  cases gathered : gather (Descriptor.effect host known · s) (seatsAmong cs labels) with
  | error error => rfl
  | ok edits =>
    simp only [Except.map, Node.editAllAmong_first, Node.editAll_below (below_of_gathered gathered),
      Node.mapChildren, renderNodes, renderNode, List.append_nil]

/-- An element as it is shown around what is in it. -/
def showElement (tag : String) (attributes : Attributes) (inner : List Char) : List Char :=
  if Markup.isVoid tag then Markup.renderStartTag tag attributes
  else Markup.renderStartTag tag attributes ++ inner ++ Markup.renderEndTag tag

theorem renderNode_element (raw : Bool) (tag : String) (attributes : Attributes)
    (properties : Properties) (cs : List Node) :
    renderNode raw (.element tag attributes properties cs) =
      showElement tag attributes (renderNodes (Markup.isRawText tag) cs) := rfl

theorem shownAmong_element {here : List Descriptor}
    (kinds : ∀ d ∈ here,
      d.kind = .attributeValue ∨ d.kind = .property ∨ d.kind = .booleanAttribute)
    (raw : Bool) (tag : String) (attributes : Attributes) (properties : Properties)
    (cs : List Node) (labels : List (List Descriptor)) :
    shownAmong host known s raw [.element tag attributes properties cs] (here :: labels) = (do
      let put ← here.foldlM (substituteAttribute host known s) attributes
      let inner ← shownAmong host known s (Markup.isRawText tag) cs labels
      return showElement tag put inner) := by
  unfold shownAmong
  rw [seatsAmong_singleton, seatsIn_element, gather_map, gather_append,
    foldlM_substituteAttribute host known s kinds []]
  cases own : gather (Descriptor.effect host known · s) (here.map (Prod.mk [])) with
  | error error => rfl
  | ok edits =>
    cases inside : gather (Descriptor.effect host known · s) (seatsAmong cs labels) with
    | error error => rfl
    | ok others =>
      simp only [bind, Except.bind, pure, Except.pure, Except.map, Node.editAllAmong_first,
        Node.editAll_append, Node.editAll_element (here_of_gathered own),
        Node.editAll_below (below_of_gathered inside), Node.mapChildren, renderNodes,
        renderNode_element, List.append_nil]

mutual

/-- What a node compiles to shows, with all bindings applied, what the node does with all its
placeholders replaced. -/
theorem shown_compiled (config : Config) (raw : Bool) : (n : Node) →
    shownAmong host known s raw (compiled config n) (labels config n) =
      (n.substitute host known s config).map (renderNode raw)
  | .text data => by
    rw [compiled, labels, pieces, shownAmong_pieces, Node.substitute]
    cases substituteFrom host known s data.toList 0 (Placeholder.all config data) with
    | error error => rfl
    | ok shown => exact congrArg Except.ok (Markup.renderNode_text raw shown).symm
  | .element tag attributes properties cs => by
    rw [compiled, labels, shownAmong_element host known s (fun _ => kind_of_boundAttributes),
      shown_compiledAll config (Markup.isRawText tag) cs, Node.substitute]
    cases (boundAttributes config attributes).foldlM (substituteAttribute host known s)
      (staticAttributes config attributes) with
    | error error => rfl
    | ok put => cases Node.substituteAll host known s config cs <;> rfl
  | .fragment cs => by
    rw [compiled, labels, shownAmong_fragment, shown_compiledAll config raw cs, Node.substitute]
    cases Node.substituteAll host known s config cs <;> rfl
  | .comment data => by
    show Except.ok (renderNode raw (.comment data) ++ []) = Except.ok _
    rw [List.append_nil]
  | .bare | .bareParent _ => rfl

theorem shown_compiledAll (config : Config) (raw : Bool) : (ns : List Node) →
    shownAmong host known s raw (compiledAll config ns) (labelsOf config ns) =
      (Node.substituteAll host known s config ns).map (renderNodes raw)
  | [] => rfl
  | n :: rest => by
    rw [compiledAll, labelsOf, shownAmong_append host known s raw (length_labels config n),
      shown_compiled config raw n, shown_compiledAll config raw rest, Node.substituteAll]
    cases n.substitute host known s config with
    | error error => rfl
    | ok first => cases Node.substituteAll host known s config rest <;> rfl

end

end Rendering

end Compile
namespace Template

/-- An instance that is created with a context shows the source with its placeholders replaced; if
the one fails, both do, with the same error. -/
theorem create_renders_substitution (config : Config) {source : Node} (fit : source.Compilable)
    {σ : Type} (host : Host σ) {context : Patch}
    (steady : ∀ key name, context.find? key = some (.function name) → host.Steady name) (s : σ) :
    ∃ made created, Template.compile config source = .ok made ∧
      Instance.create host made.template (some context) s = .ok created ∧
      created.outcome.map Instance.render =
        (source.substitute host (fun key => context.find? key) s config).map Markup.render := by
  obtain ⟨⟨template, count⟩, done, outcome⟩ := compile_outcome config fit
  have effects (d : Descriptor) (t : σ) :
      (d.effect host (Knowledge.nothing.learn context) t).map Descriptor.visible =
        (d.effect host (fun key => context.find? key) s).map Descriptor.visible := by
    rw [Knowledge.learn_nothing]
    exact Descriptor.visible_of_steady steady d t s
  have updated := Instance.updateParts_fresh effects
    (fun p member => (outcome.suits member).1)
    (fun p member => (outcome.suits member).2) template.content rfl s
  have shown := Compile.shown_compiled host (fun key => context.find? key) s config false source
  rw [Instance.seats_of_parts] at updated
  rw [outcome.content, Compile.shownAmong, Compile.seatsAmong_singleton, gather_map] at shown
  refine ⟨_, _, done, Instance.create_eq (Instance.ofTemplate_eq outcome) host context s,
    ?_⟩
  have markup {n : Except Error Node} :
      n.map Markup.render = (n.map (Markup.renderNode false)).map String.ofList := by
    cases n <;> rfl
  have rendered {i : Except Error Instance} : i.map Instance.render =
      ((i.map Instance.content).map Node.withoutProperties).map Markup.render := by
    cases i with
    | error error => rfl
    | ok i => exact congrArg Except.ok (Node.render_withoutProperties i.content).symm
  rw [markup, ← shown, rendered]
  refine (congrArg (Except.map Markup.render) updated).trans ?_
  cases gather _ (Compile.seatsIn template.content (Compile.labels config source)) with
  | error error => rfl
  | ok edits =>
    simp only [Except.map, Node.editAllAmong_first, Markup.renderNodes, List.append_nil,
      Node.render_withoutProperties]
    rfl

/-- Bindings of every kind, a call with a missing argument, and a placeholder without a value. -/
def countedSource : Node :=
  .fragment [.element "p" [(some "title", some "[word]"), (some "?hidden", some "[off]"),
    (some "id", some "a"), (some ".data", some "[word]")] []
    [.text "[tally(word, none)] of [word][missing]!", .comment "[word]"]]

def countedContext : Patch :=
  [("tally", .function "count"), ("word", .str "<a>"), ("off", .bool true)]

theorem countedSource_compilable : countedSource.Compilable :=
  ⟨by decide, by decide, by unfold Node.AllAttributes; decide⟩

theorem countedContext_steady (key name : String)
    (given : countedContext.find? key = some (.function name)) : (Stock.host #[]).Steady name := by
  obtain ⟨-, rfl⟩ : key = "tally" ∧ name = "count" := by
    simpa [countedContext] using Entries.mem_of_find? given
  exact Host.steady_of_eq fun vs s t => rfl

theorem countedSource_substituted : (countedSource.substitute (Stock.host #[])
    (fun key => countedContext.find? key) Supply.start squareBrackets).map Markup.render =
      .ok "<p id=\"a\" title=\"&lt;a&gt;\" hidden>2 of &lt;a&gt;!<!--[word]--></p>" := by
  decide +kernel

theorem countedSource_renders : countedSource.Compilable ∧
    (∀ key name, countedContext.find? key = some (.function name) →
      (Stock.host #[]).Steady name) ∧
    ∃ made created, Template.compile squareBrackets countedSource = .ok made ∧
      Instance.create (Stock.host #[]) made.template (some countedContext) Supply.start =
        .ok created ∧
      created.outcome.map Instance.render =
        .ok "<p id=\"a\" title=\"&lt;a&gt;\" hidden>2 of &lt;a&gt;!<!--[word]--></p>" := by
  refine ⟨countedSource_compilable, countedContext_steady, ?_⟩
  obtain ⟨made, created, compiled, start, renders⟩ := create_renders_substitution squareBrackets
    countedSource_compilable (Stock.host #[]) countedContext_steady Supply.start
  exact ⟨made, created, compiled, start, renders.trans countedSource_substituted⟩

end Template
end LiveTemplate
