import LiveTemplate.Proofs.Instance.History
import LiveTemplate.Proofs.Template.Alignment
import LiveTemplate.Proofs.Template.Seats
import LiveTemplate.Proofs.Template.Targets
import Mathlib.Data.List.Permutation

/-! Merged patches. After ordinary patches that nothing stopped, an instance is what all that is
known by then makes of its content, so a single patch that tells the same leads to the same tree and
the same values. -/
namespace LiveTemplate

/-- What is held, without regard to which number or string a property is. -/
def Held.form : Held → Held
  | propertyValue v => propertyValue v.form
  | h => h

/-- A field shows values of one form alike. -/
theorem Descriptor.shown_form (d : Descriptor) {v w : Value} (forms : v.form = w.form) :
    (d.shown v).map Held.form = (d.shown w).map Held.form := by
  have own (v : Value) : (d.shown v.form).map Held.form = (d.shown v).map Held.form := by
    unfold shown
    cases d.kind with
    | text | attributeValue | booleanAttribute =>
      cases v with
      | scalar id s => cases s <;> rfl
      | _ => rfl
    | property => simp [Held.form]
    | other name => rfl
  rw [← own v, forms, own w]

theorem Part.holds_form {base : Node} {p q : Part} (path : p.path = q.path)
    (descriptor : p.descriptor = q.descriptor) (forms : p.value.form = q.value.form) :
    (p.holds base).map Held.form = (q.holds base).map Held.form := by
  have unset : isUnset p.value = isUnset q.value := by
    have own (v : Value) : isUnset v.form = isUnset v := by cases v <;> rfl
    rw [← own, forms, own]
  rw [holds, holds, unset, path, descriptor]
  split
  · rfl
  · exact q.descriptor.shown_form forms

namespace Instance

def seats (i : Instance) : List Seat := i.parts.map fun p => (p.path, p.descriptor)

theorem targets_eq (i : Instance) :
    i.parts.map Part.target = i.seats.map fun seat => (seat.1, seat.2.field) := by
  rw [seats, List.map_map]
  rfl

/-- Trees of one shape that hold the same in every field of every node, and parts with the same
values. The order of attributes is not compared, nor which of the objects with one number or string
a property holds. -/
structure Agree (i j : Instance) : Prop where
  shape : i.content.shape = j.content.shape
  held : ∀ path f, (i.content.heldAt path f).map Held.form = (j.content.heldAt path f).map Held.form
  parts : i.parts.map (fun p => (p.path, p.descriptor, p.value.form)) =
    j.parts.map (fun p => (p.path, p.descriptor, p.value.form))

/-- An instance whose parts have taken in all that is known and whose tree shows it. -/
structure Current {σ : Type} (host : Host σ) (base : Node) (known : Knowledge) (i : Instance) :
    Prop where
  overlays : i.Overlays base
  settled : ∀ p ∈ i.parts, ∃ cast, p.Settled host known cast

section Update

variable {σ : Type} {host : Host σ}

theorem seats_update {patch : Patch} {i : Instance} {s : σ} :
    (i.update host patch s).updated.seats = i.seats := by
  rw [update_eq, seats, seats]
  fun_induction partsAfter i.parts (reactions host patch i.parts s).1 <;> simp_all

theorem seats_updateAll {patches : List Patch} {i : Instance} {s : σ} :
    (updateAll host patches i s).updated.seats = i.seats := by
  induction patches generalizing i s with
  | nil => rfl
  | cons patch rest ih =>
    cases outcome : (i.update host patch s).error with
    | some error => rw [updateAll_of_failed host outcome, seats_update]
    | none =>
      rw [updateAll_of_passed host outcome]
      exact ih.trans seats_update

variable {base : Node} {known : Knowledge}

theorem Current.update {patch : Patch} {i : Instance} {s : σ} (current : i.Current host base known)
    (ordinary : known.Ordinary host) (given : patch.Ordinary host)
    (fine : (i.update host patch s).error = none) :
    (i.update host patch s).updated.Current host base (known.learn patch) := by
  refine ⟨current.overlays.update, ?_⟩
  intro q member
  obtain ⟨p, inside, t, rfl, passed⟩ := mem_updated_parts host fine member
  obtain ⟨cast, settled⟩ := current.settled p inside
  obtain ⟨after, later, -⟩ := settled.react ordinary given passed
  exact ⟨after, later⟩

theorem Current.updateAll {patches : List Patch} {i : Instance} {s : σ}
    (current : i.Current host base known) (ordinary : known.Ordinary host)
    (given : ∀ patch ∈ patches, patch.Ordinary host)
    (fine : (updateAll host patches i s).error = none) :
    (updateAll host patches i s).updated.Current host base
      (patches.foldl Knowledge.learn known) := by
  induction patches generalizing known i s with
  | nil => exact current
  | cons patch rest ih =>
    obtain ⟨here, others⟩ := List.forall_mem_cons.mp given
    obtain ⟨passed, later⟩ := passed_of_updateAll host fine
    rw [updateAll_of_passed host passed]
    exact ih (current.update ordinary here passed) (ordinary.learn here) others later

/-- The form of the value that a settled part has. -/
def valueOf (host : Host σ) (known : Knowledge) (s : σ) (d : Descriptor) : Value :=
  match d.outcome host known s with
  | .ok cast => (cast.map Applied.value).getD .unset
  | .error _ => .unset

theorem Current.values {i : Instance} (current : i.Current host base known) (s : σ) :
    i.parts.map (fun p => (p.path, p.descriptor, p.value.form)) =
      i.seats.map fun seat => (seat.1, seat.2, valueOf host known s seat.2) := by
  rw [seats, List.map_map]
  refine List.map_congr_left fun p member => ?_
  obtain ⟨cast, settled⟩ := current.settled p member
  simp [valueOf, settled.outcome s, settled.value]

/-- A binding of an instance that is current can be evaluated, so the same one elsewhere can. -/
theorem Current.outcome {i j : Instance} (current : j.Current host base known)
    (seats : i.seats = j.seats) {p : Part} (member : p ∈ i.parts) :
    ∃ cast, ∀ s, p.descriptor.outcome host known s = .ok cast := by
  have seat : (p.path, p.descriptor) ∈ j.seats := by
    rw [← seats]
    exact List.mem_map_of_mem (f := fun p => (p.path, p.descriptor)) member
  obtain ⟨q, inside, same⟩ := List.mem_map.mp seat
  obtain ⟨cast, settled⟩ := current.settled q inside
  rw [← (Prod.mk.inj same).2]
  exact ⟨cast, settled.outcome⟩

/-- What is known settles the tree and the values. -/
theorem Current.agree {i j : Instance} (first : i.Current host base known)
    (second : j.Current host base known) (seats : i.seats = j.seats) (s : σ) : i.Agree j := by
  have parts : i.parts.map (fun p => (p.path, p.descriptor, p.value.form)) =
      j.parts.map (fun p => (p.path, p.descriptor, p.value.form)) := by
    rw [first.values s, second.values s, seats]
  have targets : i.parts.map Part.target = j.parts.map Part.target := by
    rw [targets_eq, targets_eq, seats]
  refine ⟨first.overlays.shape.trans second.overlays.shape.symm, ?_, parts⟩
  intro path f
  by_cases owned : (path, f) ∈ i.parts.map Part.target
  · obtain ⟨p, member, target⟩ := List.mem_map.mp owned
    cases target
    have shared := List.mem_map_of_mem (f := fun p => (p.path, p.descriptor, p.value.form)) member
    rw [parts] at shared
    obtain ⟨q, other, same⟩ := List.mem_map.mp shared
    simp only [Prod.mk.injEq] at same
    obtain ⟨path, descriptor, value⟩ := same
    have right := second.overlays.owned q other
    rw [path, descriptor] at right
    rw [first.overlays.owned p member, right]
    exact Part.holds_form path.symm descriptor.symm value.symm
  · rw [first.overlays.free path f owned, second.overlays.free path f (targets ▸ owned)]

/-- An update passes if every part does, whatever state the parts before it left. -/
theorem update_fine {patch : Patch} {i : Instance}
    (passes : ∀ p ∈ i.parts, ∀ s, (p.react host patch s).1.error? = none) (s : σ) :
    (i.update host patch s).error = none := by
  rw [update_eq]
  generalize i.parts = parts at passes
  induction parts generalizing s with
  | nil => rfl
  | cons p rest ih =>
    obtain ⟨here, others⟩ := List.forall_mem_cons.mp passes
    rw [reactions_of_passed host patch (here s)]
    simpa [here s] using ih (p.react host patch s).2 others

end Update

end Instance

namespace Instance

/-- Instances that come of creating one with a first patch and updating it with others, when nothing
stops this. -/
inductive Reaches {σ : Type} (host : Host σ) (t : Template) : List Patch → Instance → Prop where
  | run {first : Patch} {rest : List Patch} {s : σ} {created : Update σ} :
    create host t (some first) s = .ok created → created.error = none →
    (updateAll host rest created.updated created.state).error = none →
    Reaches host t (first :: rest) (updateAll host rest created.updated created.state).updated

end Instance

namespace Template

variable {σ : Type} {host : Host σ} {config : Config} {source : Node} {made : Compiled}

/-- Updated with ordinary patches, none of which failed, an instance is what all of them together
make of the content. -/
theorem current_of_updates (outcome : Outcome config source made)
    (distinct : source.AllAttributes fun a => a.Keyed ∧ a.Apart config) {patches : List Patch}
    (ordinary : ∀ patch ∈ patches, patch.Ordinary host) {fresh : Instance}
    (start : Instance.ofTemplate made.template = .ok fresh) {s : σ}
    (fine : (Instance.updateAll host patches fresh s).error = none) :
    (Instance.updateAll host patches fresh s).updated.Current host made.template.content
      (Knowledge.ofPatches patches) := by
  have unsettled : fresh.Current host made.template.content Knowledge.nothing := by
    refine ⟨?_, fun p member => ⟨none, .of_fresh (Instance.fresh_of_ofTemplate start member)⟩⟩
    cases (Instance.ofTemplate_eq outcome).symm.trans start
    exact Instance.overlays_fresh outcome distinct
  exact unsettled.updateAll .nothing ordinary fine

/-- An instance that was reached with ordinary patches is what all of them together make of the
content. -/
theorem current_of_reached (outcome : Outcome config source made)
    (distinct : source.AllAttributes fun a => a.Keyed ∧ a.Apart config) {patches : List Patch}
    (ordinary : ∀ patch ∈ patches, patch.Ordinary host) {i : Instance}
    (reached : Instance.Reaches host made.template patches i) :
    i.Current host made.template.content (Knowledge.ofPatches patches) ∧
      i.seats = Compile.seatsIn made.template.content (Compile.labels config source) := by
  obtain @⟨first, rest, s, created, start, began, ended⟩ := reached
  have made := Instance.ofTemplate_eq outcome
  cases (Instance.create_eq made host _ _).symm.trans start
  have whole := Instance.updateAll_of_passed host began rest
  have current := current_of_updates outcome distinct ordinary made (by rw [whole]; exact ended)
  rw [whole] at current
  refine ⟨current, ?_⟩
  rw [Instance.seats_updateAll, Instance.seats_update, Instance.seats, Instance.seats_of_parts]

/-- Patches that tell the same lead to the same. -/
theorem agree_of_reached (outcome : Outcome config source made)
    (distinct : source.AllAttributes fun a => a.Keyed ∧ a.Apart config)
    {patches others : List Patch} (ordinary : ∀ patch ∈ patches, patch.Ordinary host)
    (plain : ∀ patch ∈ others, patch.Ordinary host) {i j : Instance}
    (reached : Instance.Reaches host made.template patches i)
    (other : Instance.Reaches host made.template others j)
    (known : ∀ key, Knowledge.ofPatches others key = Knowledge.ofPatches patches key) :
    i.Agree j := by
  obtain ⟨first, seats⟩ := current_of_reached outcome distinct ordinary reached
  obtain ⟨second, sameSeats⟩ := current_of_reached outcome distinct plain other
  rw [funext known] at second
  -- A settled part has one value in every state, so that of any run will do.
  obtain @⟨_, _, s, _, -, -, -⟩ := reached
  exact first.agree second (seats.trans sameSeats.symm) s

/-- A patch that tells the same as patches that passed passes as the first one. -/
theorem create_of_reached (outcome : Outcome config source made)
    (distinct : source.AllAttributes fun a => a.Keyed ∧ a.Apart config) {patches : List Patch}
    (ordinary : ∀ patch ∈ patches, patch.Ordinary host) {i : Instance}
    (reached : Instance.Reaches host made.template patches i) {merged : Patch}
    (known : ∀ key, merged.find? key = Knowledge.ofPatches patches key) (s : σ) :
    ∃ again, Instance.create host made.template (some merged) s = .ok again ∧
      again.error = none := by
  obtain ⟨current, seats⟩ := current_of_reached outcome distinct ordinary reached
  have total : Knowledge.nothing.learn merged = Knowledge.ofPatches patches :=
    (Knowledge.learn_nothing merged).trans (funext known)
  refine ⟨_, Instance.create_eq (Instance.ofTemplate_eq outcome) host merged s, ?_⟩
  refine Instance.update_fine (fun p member s => ?_) s
  obtain ⟨fresh, suits⟩ := outcome.suits member
  have kept : p.evaluator = .knowing .nothing p.descriptor.expression := by
    rw [fresh]
    exact Evaluator.ofSource_eq_knowing _
  have same : Instance.seats (Instance.ofLabels _ _) = i.seats :=
    (Instance.seats_of_parts _ _).trans seats.symm
  obtain ⟨cast, outcome⟩ := current.outcome same member
  obtain ⟨exact, effect, -⟩ := Descriptor.outcome_eq_ok_iff.mp (outcome s)
  exact Part.react_passes kept suits (total ▸ effect)

/-- Updating with one patch after the other comes to the same as creating an instance with a patch
that gives each key its last value. How the values are spread over patches, and in which order they
come, makes no difference. -/
theorem updates_agree_with_merge (fit : source.Compilable)
    (keyed : source.AllAttributes Attributes.Keyed)
    (apart : source.AllAttributes (Attributes.Apart config))
    (done : Template.compile config source = .ok made) {patches : List Patch}
    (ordinary : ∀ patch ∈ patches, patch.Ordinary host) {i : Instance}
    (reached : Instance.Reaches host made.template patches i) :
    (∀ (merged : Patch) (s : σ),
      (∀ key, merged.find? key = Knowledge.ofPatches patches key) →
      ∃ again, Instance.create host made.template (some merged) s = .ok again ∧
        again.error = none ∧ i.Agree again.updated) ∧
    ∀ (others : List Patch) (j : Instance), (∀ patch ∈ others, patch.Ordinary host) →
      Instance.Reaches host made.template others j →
      (∀ key, Knowledge.ofPatches others key = Knowledge.ofPatches patches key) →
      i.Agree j := by
  obtain ⟨compiled, same, outcome⟩ := compile_outcome config fit
  cases done.symm.trans same
  have distinct : source.AllAttributes fun a => a.Keyed ∧ a.Apart config :=
    fun n member => ⟨keyed n member, apart n member⟩
  refine ⟨?_, fun others j plain other known =>
    agree_of_reached outcome distinct ordinary plain reached other known⟩
  intro merged s known
  obtain ⟨again, restart, fine⟩ := create_of_reached outcome distinct ordinary reached known s
  refine ⟨again, restart, fine, ?_⟩
  have plain : merged.Ordinary host := by
    rw [Patch.Ordinary, funext known]
    exact .ofPatches ordinary
  have total : Knowledge.ofPatches [merged] = Knowledge.ofPatches patches :=
    (Knowledge.learn_nothing merged).trans (funext known)
  exact agree_of_reached outcome distinct ordinary (by simpa using plain) reached
    (.run restart fine rfl) (congrFun total)

def talliedAttributes : Attributes :=
  [(some "title", some "[tally(word, word)]"), (some "?hidden", some "[word]"),
    (some "id", some "a"), (some ".item", some "[more]")]

/-- Bindings of every kind share their keys, and a call has one twice. -/
def talliedSource : Node :=
  .fragment [.element "p" talliedAttributes [] [.text "[word]: [tally(more)]"]]

def talliedCompiled : Compiled :=
  ⟨⟨.fragment [.element "p" [(some "id", some "a")] [] [.text "", .text ": ", .text ""]],
    [(0, [⟨.attributeValue, "tally(word, word)", some "title"⟩,
        ⟨.booleanAttribute, "word", some "hidden"⟩, ⟨.property, "more", some "item"⟩]),
      (1, [⟨.text, "word", none⟩]), (3, [⟨.text, "tally(more)", none⟩])]⟩, 4⟩

def talliedMerge : Patch :=
  [("more", .int 1), ("word", .scalar (some 5) (.str "a")), ("tally", .function "count")]

theorem talliedSource_compilable : talliedSource.Compilable :=
  ⟨by decide, by decide, by unfold Node.AllAttributes; decide⟩

theorem talliedSource_keyed : talliedSource.AllAttributes Attributes.Keyed := by
  unfold Node.AllAttributes
  decide

theorem talliedSource_apart : talliedSource.AllAttributes (Attributes.Apart squareBrackets) := by
  have bound : Compile.boundAttributes squareBrackets talliedAttributes =
      [⟨.attributeValue, "tally(word, word)", some "title"⟩,
        ⟨.booleanAttribute, "word", some "hidden"⟩, ⟨.property, "more", some "item"⟩] := by cbv
  have static : Compile.staticAttributes squareBrackets talliedAttributes =
      [(some "id", some "a")] := by cbv
  have element : Attributes.Apart squareBrackets talliedAttributes := by
    rw [Attributes.Apart, bound, static]
    decide
  intro n member
  simp only [talliedSource, Node.allNodes, Node.allNodesOf, List.append_nil, List.mem_cons,
    List.not_mem_nil, or_false] at member
  rcases member with rfl | rfl | rfl
  · exact Attributes.apart_nil _
  · exact element
  · exact Attributes.apart_nil _

theorem talliedSource_compiles :
    Template.compile squareBrackets talliedSource = .ok talliedCompiled := by cbv

theorem find?_talliedMerge (key : String) :
    talliedMerge.find? key = Knowledge.ofPatches Instance.talliedPatches key := by
  simp only [talliedMerge, Instance.talliedPatches, Knowledge.ofPatches, List.foldl_cons,
    List.foldl_nil, Knowledge.learn, Knowledge.nothing, Entries.find?]
  by_cases more : "more" = key
  · subst more; rfl
  · by_cases word : "word" = key
    · subst word; rfl
    · simp [more, word]

theorem tallied_reached : ∃ i,
    Instance.Reaches (Stock.host #[]) talliedCompiled.template Instance.talliedPatches i := by
  have made : Instance.ofTemplate talliedCompiled.template = .ok ⟨talliedCompiled.template.content,
    Instance.bind talliedCompiled.template.table 0 talliedCompiled.template.content.spots⟩ := rfl
  have start := Instance.create_eq made (Stock.host #[]) [("word", .str "a")] Supply.start
  exact ⟨_, .run start (by decide) (by decide)⟩

theorem talliedPatches_agree_with_merge : talliedSource.Compilable ∧
    talliedSource.AllAttributes Attributes.Keyed ∧
    talliedSource.AllAttributes (Attributes.Apart squareBrackets) ∧
    Template.compile squareBrackets talliedSource = .ok talliedCompiled ∧
    (∀ patch ∈ Instance.talliedPatches, patch.Ordinary (Stock.host #[])) ∧
    ∃ i, Instance.Reaches (Stock.host #[]) talliedCompiled.template Instance.talliedPatches i ∧
      ∃ again, Instance.create (Stock.host #[]) talliedCompiled.template (some talliedMerge)
          Supply.start = .ok again ∧ again.error = none ∧ i.Agree again.updated := by
  obtain ⟨i, reached⟩ := tallied_reached
  have agreed := updates_agree_with_merge talliedSource_compilable talliedSource_keyed
    talliedSource_apart talliedSource_compiles Instance.talliedPatches_ordinary reached
  exact ⟨talliedSource_compilable, talliedSource_keyed, talliedSource_apart, talliedSource_compiles,
    Instance.talliedPatches_ordinary, i, reached,
    agreed.1 talliedMerge Supply.start find?_talliedMerge⟩

end Template
end LiveTemplate
