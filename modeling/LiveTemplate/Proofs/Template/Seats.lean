import LiveTemplate.Proofs.Node.Edit
import LiveTemplate.Proofs.Part.Steady
import LiveTemplate.Proofs.Template.Labels

/-! The seats of bindings: each binding with the path to its node. The first update of an instance
gathers one edit from every seat whose binding has something to apply, in order, and makes them. -/
namespace LiveTemplate

abbrev Seat := Path × Descriptor

namespace Compile

/-- The seats among trees whose walked nodes have the given bindings. -/
def seatsAmong (ns : List Node) (labels : List (List Descriptor)) : List Seat :=
  (List.zipWith (fun spot bindings => bindings.map (Prod.mk spot.1)) (Node.spotsAmong ns)
    labels).flatten

theorem seatsAmong_append {ms : List Node} {first : List (List Descriptor)}
    (length : (Node.spotsAmong ms).length = first.length) (ns : List Node)
    (others : List (List Descriptor)) :
    seatsAmong (ms ++ ns) (first ++ others) =
      seatsAmong ms first ++ (seatsAmong ns others).map (Prod.map (Node.later ms.length) id) := by
  unfold seatsAmong
  rw [Node.spotsAmong_append, List.zipWith_append length, List.flatten_append, List.map_flatten,
    List.zipWith_map_left, List.map_zipWith]
  simp [Function.comp_def]

/-- The seats in one tree. -/
def seatsIn (n : Node) (labels : List (List Descriptor)) : List Seat :=
  (List.zipWith (fun spot bindings => bindings.map (Prod.mk spot.1)) n.spots labels).flatten

theorem seatsAmong_singleton (n : Node) (labels : List (List Descriptor)) :
    seatsAmong [n] labels = (seatsIn n labels).map (Prod.map (0 :: ·) id) := by
  unfold seatsAmong seatsIn
  rw [Node.spotsAmong_cons, Node.spotsAmong_nil, List.map_nil, List.append_nil, List.map_flatten,
    List.zipWith_map_left, List.map_zipWith]
  simp [Function.comp_def]

theorem seatsIn_fragment (cs : List Node) (labels : List (List Descriptor)) :
    seatsIn (.fragment cs) labels = seatsAmong cs labels := rfl

theorem seatsIn_element (tag : String) (attributes : Attributes) (properties : Properties)
    (cs : List Node) (here : List Descriptor) (labels : List (List Descriptor)) :
    seatsIn (.element tag attributes properties cs) (here :: labels) =
      here.map (Prod.mk []) ++ seatsAmong cs labels := rfl

theorem within_of_mem_seatsAmong {ns : List Node} {labels : List (List Descriptor)} {seat : Seat}
    (member : seat ∈ seatsAmong ns labels) :
    ∃ index rest, seat.1 = index :: rest ∧ index < ns.length := by
  obtain ⟨seats, zipped, inside⟩ := List.mem_flatten.mp member
  obtain ⟨i, found⟩ := List.mem_iff_getElem?.mp zipped
  obtain ⟨⟨path, n⟩, bindings, spot, -, rfl⟩ := List.getElem?_zipWith_eq_some.mp found
  obtain ⟨d, -, rfl⟩ := List.mem_map.mp inside
  obtain ⟨index, rest, rfl, led⟩ := Node.at?_of_mem_spotsAmong (List.mem_of_getElem? spot)
  refine ⟨index, rest, rfl, ?_⟩
  obtain ⟨c, child, -⟩ := Option.bind_eq_some_iff.mp led
  exact (List.getElem?_eq_some_iff.mp child).1

theorem length_labels (config : Config) (n : Node) :
    (Node.spotsAmong (compiled config n)).length = (labels config n).length := by
  have labelled := labelled_compiled config n (.trivially n)
  rw [← labelled.length_eq, ← Node.map_snd_spotsAmong, List.length_map]

end Compile

section Gathering

variable (effect : Descriptor → Except Error (Option Applied))

/-- The edits of all that is to be applied, up to the first failure. -/
def gather : List Seat → Except Error (List (Path × Edit))
  | [] => .ok []
  | (path, d) :: rest => do
    let applied ← effect d
    let later ← gather rest
    return applied.toList.map (fun a => (path, a.edit)) ++ later

theorem gather_append (first later : List Seat) :
    gather effect (first ++ later) = (do
      let edits ← gather effect first
      let others ← gather effect later
      return edits ++ others) := by
  induction first with
  | nil =>
    simp only [List.nil_append, gather, bind, Except.bind, pure, Except.pure]
    cases gather effect later <;> rfl
  | cons seat first ih =>
    obtain ⟨path, d⟩ := seat
    simp only [List.cons_append, gather, ih, bind, Except.bind, pure, Except.pure]
    cases effect d with
    | error error => rfl
    | ok applied =>
      cases gather effect first with
      | error error => rfl
      | ok edits => cases gather effect later <;> simp

theorem gather_map (f : Path → Path) (seats : List Seat) :
    gather effect (seats.map (Prod.map f id)) =
      (gather effect seats).map (List.map (Prod.map f id)) := by
  induction seats with
  | nil => rfl
  | cons seat seats ih =>
    obtain ⟨path, d⟩ := seat
    simp only [List.map_cons, Prod.map_apply, gather, bind, Except.bind, pure, Except.pure, ih, id]
    cases effect d with
    | error error => rfl
    | ok applied => cases gather effect seats <;> simp [Except.map, Prod.map]

variable {effect}

theorem path_of_mem_gather {seats : List Seat} {edits : List (Path × Edit)}
    (gathered : gather effect seats = .ok edits) {s : Path × Edit} (member : s ∈ edits) :
    ∃ seat ∈ seats, seat.1 = s.1 := by
  induction seats generalizing edits with
  | nil => cases gathered; cases member
  | cons seat seats ih =>
    obtain ⟨path, d⟩ := seat
    simp only [gather, bind, Except.bind, pure, Except.pure] at gathered
    cases applied : effect d with
    | error error => simp [applied] at gathered
    | ok applied? =>
      cases others : gather effect seats with
      | error error => simp [applied, others] at gathered
      | ok later =>
        obtain rfl : _ ++ later = edits := by simpa [applied, others] using gathered
        rcases List.mem_append.mp member with here | behind
        · obtain ⟨a, -, rfl⟩ := List.mem_map.mp here
          exact ⟨_, List.mem_cons_self, rfl⟩
        · obtain ⟨seat, inside, same⟩ := ih others behind
          exact ⟨seat, List.mem_cons_of_mem _ inside, same⟩

end Gathering

/-- Whatever the binding applies fits nodes of the type. -/
def Descriptor.Suits (d : Descriptor) (type : NodeType) : Prop :=
  ∀ (shelf : Shelf) (v : Value) (applied : Applied),
    d.cast shelf v = .ok applied → applied.edit.fits type = true

theorem Compile.Labelled.suits {config : Config} {holds : Attributes → Prop} {n : Node}
    {bindings : List Descriptor} (labelled : Labelled config holds n bindings) {d : Descriptor}
    (member : d ∈ bindings) : d.Suits n.type := by
  intro shelf v applied cast
  rcases Descriptor.cast_cases cast with
    ⟨kind, s, -, rfl⟩ | ⟨kind, s, -, rfl⟩ | ⟨kind, b, -, rfl⟩ | ⟨kind, rfl⟩
  all_goals cases labelled with
    | static => cases member
    | hole p => obtain rfl := List.mem_singleton.mp member; first | rfl | cases kind
    | element tag attributes properties cs =>
      first
        | rfl
        | rcases kind_of_boundAttributes member with other | other | other <;>
            simp [kind] at other

/-- A part passes if its binding can be evaluated and applied with what is known then. -/
theorem Part.react_passes {σ : Type} {host : Host σ} {known : Knowledge} {patch : Patch} {p : Part}
    (kept : p.evaluator = .knowing known p.descriptor.expression)
    (suits : p.descriptor.Suits p.nodeType) {s : σ} {cast : Option Applied}
    (effect : p.descriptor.effect host (known.learn patch) s = .ok cast) :
    (p.react host patch s).1.error? = none := by
  cases moved : p.evaluator.changed host.shelf p.comparison patch with
  | false =>
    rw [react_of_unchanged moved]
    rfl
  | true =>
    have reacted := react_of_changed kept moved s
    rw [effect] at reacted
    cases cast with
    | none => rw [reacted]; rfl
    | some applied =>
      obtain ⟨v, -, cast⟩ := Descriptor.effect_cases effect
      rw [reacted, write, if_pos (suits _ _ _ cast)]
      split <;> rfl

namespace Update

/-- The instance, if nothing went wrong. -/
def outcome {σ : Type} (u : Update σ) : Except Error Instance :=
  match u.error with
  | none => .ok u.updated
  | some error => .error error

end Update

namespace Instance

section FirstUpdate

variable {σ : Type} {host : Host σ} {patch : Patch} {p : Part} {content : Node} {s : σ}

theorem outcome_of_failed {error : Error} (failed : (p.react host patch s).1.error? = some error)
    (rest : List Part) :
    (updateParts host patch content s (p :: rest)).outcome = .error error := by
  simp [updateParts, failed, Update.outcome]

theorem outcome_of_passed (passed : (p.react host patch s).1.error? = none) (rest : List Part) :
    (updateParts host patch content s (p :: rest)).outcome.map Instance.content =
      (updateParts host patch (applyReaction p (p.react host patch s).1 content)
        (p.react host patch s).2 rest).outcome.map Instance.content := by
  simp only [updateParts, passed, Update.outcome]
  cases (updateParts host patch _ _ rest).error <;> rfl

/-- What a fresh part does to the tree for what its binding is to apply. -/
theorem reaction_fresh (host : Host σ) (patch : Patch) (content : Node) (s : σ)
    (fresh : p.Fresh) (suits : p.descriptor.Suits p.nodeType) :
    match p.descriptor.effect host (Knowledge.nothing.learn patch) s with
    | .error error => (p.react host patch s).1.error? = some error
    | .ok applied => (p.react host patch s).1.error? = none ∧
      applyReaction p (p.react host patch s).1 content =
        content.editAll ((applied.map Applied.edit).toList.map (Prod.mk p.path)) := by
  have reacted := Part.react_fresh host patch p.path p.nodeType p.descriptor s
  rw [← fresh] at reacted
  cases effect : p.descriptor.effect host (Knowledge.nothing.learn patch) s with
  | error error =>
    simp only [effect] at reacted
    obtain ⟨e, failed⟩ := reacted
    rw [failed]
    rfl
  | ok applied? =>
    cases applied? with
    | none =>
      simp only [effect] at reacted
      obtain ⟨unedited, passed⟩ := reacted
      rw [applyReaction, unedited]
      exact ⟨passed, rfl⟩
    | some applied =>
      simp only [effect] at reacted
      obtain ⟨e, wrote⟩ := reacted
      obtain ⟨v, -, cast⟩ := Descriptor.effect_cases effect
      rw [Part.write, if_pos (suits _ _ _ cast)] at wrote
      rw [wrote]
      exact ⟨rfl, rfl⟩

/-- The first update makes the edits that it gathers from the seats of the parts; the properties
that it sets are left aside. -/
theorem updateParts_fresh {effect : Descriptor → Except Error (Option Applied)}
    (steady : ∀ d s, (d.effect host (Knowledge.nothing.learn patch) s).map Descriptor.visible =
      (effect d).map Descriptor.visible)
    {parts : List Part} (fresh : ∀ p ∈ parts, p.Fresh)
    (suit : ∀ p ∈ parts, p.descriptor.Suits p.nodeType) (content : Node) {other : Node}
    (same : content.withoutProperties = other.withoutProperties) (s : σ) :
    ((updateParts host patch content s parts).outcome.map Instance.content).map
        Node.withoutProperties =
      (gather effect (parts.map fun p => (p.path, p.descriptor))).map fun edits =>
        (other.editAll edits).withoutProperties := by
  induction parts generalizing content other s with
  | nil => exact congrArg Except.ok same
  | cons p rest ih =>
    obtain ⟨here, others⟩ := List.forall_mem_cons.mp fresh
    obtain ⟨suits, suitable⟩ := List.forall_mem_cons.mp suit
    have reacted := reaction_fresh host patch content s here suits
    have alike := steady p.descriptor s
    simp only [List.map_cons, gather]
    cases made : p.descriptor.effect host (Knowledge.nothing.learn patch) s with
    | error error =>
      simp only [made] at reacted alike
      rw [outcome_of_failed reacted]
      cases told : effect p.descriptor with
      | error error => rw [told] at alike; cases alike; rfl
      | ok applied => rw [told] at alike; cases alike
    | ok applied =>
      simp only [made] at reacted alike
      cases told : effect p.descriptor with
      | error error => rw [told] at alike; cases alike
      | ok due =>
        rw [told] at alike
        have visible : Descriptor.visible applied = Descriptor.visible due := Except.ok.inj alike
        have edited := Node.withoutProperties_editAll p.path visible same
        rw [← reacted.2] at edited
        rw [outcome_of_passed reacted.1, ih others suitable _ edited]
        cases gather effect (rest.map fun p => (p.path, p.descriptor)) with
        | error error => rfl
        | ok later =>
          cases due with
          | none => rfl
          | some a => rfl

end FirstUpdate

theorem seats_of_parts (n : Node) (labels : List (List Descriptor)) :
    (ofLabels n labels).parts.map (fun p => (p.path, p.descriptor)) =
      Compile.seatsIn n labels := by
  unfold Compile.seatsIn ofLabels
  rw [List.map_flatten, List.map_zipWith]
  simp [partsAt, Part.ofDescriptor, Function.comp_def]

end Instance

/-- The parts of a fresh instance suit the nodes that they are at. -/
theorem Template.Outcome.suits {config : Config} {source : Node} {made : Template.Compiled}
    (outcome : Outcome config source made) {p : Part}
    (member : p ∈ (Instance.ofLabels made.template.content (Compile.labels config source)).parts) :
    p.Fresh ∧ p.descriptor.Suits p.nodeType := by
  obtain ⟨n, bindings, -, fresh, bound, labelled⟩ :=
    Instance.part_at outcome (.trivially source) member
  have type : p.nodeType = n.type := congrArg Part.nodeType fresh
  refine ⟨?_, ?_⟩
  · rw [Part.Fresh, type]; exact fresh
  · rw [type]; exact labelled.suits bound

end LiveTemplate
