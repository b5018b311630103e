import LiveTemplate.Proofs.Instance.Merge

/-! Instances over their whole life. Any updates may come, with any values, and any of them may fail
part-way: the tree is the compiled content with the values of the parts in the fields they own. -/
namespace LiveTemplate

namespace Descriptor

/-- Values in the form in which the binding keeps them. -/
def Admits (d : Descriptor) (v : Value) : Prop :=
  match d.kind with
  | .text | .attributeValue => ∃ s, v = .str s
  | .booleanAttribute => ∃ b, v = .bool b
  | .property => v ≠ .unset
  | .other _ => False

/-- How a value shows in the binding's field: characters and attribute values as they are, a flag by
an attribute without a value, a property as the very object. -/
def Shows (d : Descriptor) (v : Value) (held : Option Held) : Prop :=
  match d.kind with
  | .text => ∃ s, v = .str s ∧ held = some (.text s)
  | .attributeValue => ∃ s, v = .str s ∧ held = some (.attributeValue (some s))
  | .booleanAttribute => (v = .bool true ∧ held = some (.attributeValue none)) ∨
    (v = .bool false ∧ held = none)
  | .property => held = some (.propertyValue v)
  | .other _ => False

theorem Admits.ne_unset {d : Descriptor} {v : Value} (admits : d.Admits v) : v ≠ .unset := by
  rintro rfl
  unfold Admits at admits
  split at admits
  · obtain ⟨s, same⟩ := admits; cases same
  · obtain ⟨s, same⟩ := admits; cases same
  · obtain ⟨b, same⟩ := admits; cases same
  · exact admits rfl
  · exact admits

theorem Admits.shows {d : Descriptor} {v : Value} (admits : d.Admits v) :
    d.Shows v (d.shown v) := by
  unfold Admits at admits
  unfold Shows shown
  cases kind : d.kind with
  | text | attributeValue =>
    rw [kind] at admits
    obtain ⟨s, rfl⟩ := admits
    exact ⟨s, rfl, rfl⟩
  | booleanAttribute =>
    rw [kind] at admits
    obtain ⟨b, rfl⟩ := admits
    cases b with
    | true => exact .inl ⟨rfl, rfl⟩
    | false => exact .inr ⟨rfl, rfl⟩
  | property => rfl
  | other name => rw [kind] at admits; exact admits

theorem admits_of_cast {shelf : Shelf} {d : Descriptor} {v : Value} {applied : Applied}
    (given : v ≠ .unset) (cast : d.cast shelf v = .ok applied) : d.Admits applied.value := by
  unfold Admits
  rcases cast_cases cast with
    ⟨kind, s, -, rfl⟩ | ⟨kind, s, -, rfl⟩ | ⟨kind, b, -, rfl⟩ | ⟨kind, rfl⟩
  all_goals rw [kind]
  · exact ⟨s, rfl⟩
  · exact ⟨s, rfl⟩
  · exact ⟨b, rfl⟩
  · exact given

end Descriptor

namespace Part

/-- A part has no value, or one in the form of its binding. -/
def Sound (p : Part) : Prop := p.value = .unset ∨ p.descriptor.Admits p.value

variable {σ : Type} {host : Host σ} {patch : Patch}

/-- Only a part that writes gets another value. -/
theorem value_after_react (p : Part) (s : σ) :
    (p.after (p.react host patch s).1).value = p.value ∨
      p.descriptor.Admits (p.after (p.react host patch s).1).value := by
  cases reaction : (p.react host patch s).1 with
  | wrote e applied =>
    obtain ⟨v, given, cast, -⟩ := wrote_cases reaction
    exact .inr (Descriptor.admits_of_cast given cast)
  | idle | withheld | settled | refused | failed => exact .inl rfl

/-- What an update makes of a part: it is left alone or it reacts. -/
def Step (host : Host σ) (patch : Patch) (p q : Part) : Prop :=
  q = p ∨ ∃ s, q = p.after (p.react host patch s).1

theorem Step.value {p q : Part} (step : Step host patch p q) :
    q.value = p.value ∨ q.descriptor.Admits q.value := by
  rcases step with rfl | ⟨s, rfl⟩
  · exact .inl rfl
  · rw [descriptor_after]
    exact value_after_react p s

theorem Step.descriptor {p q : Part} (step : Step host patch p q) :
    q.descriptor = p.descriptor := by
  rcases step with rfl | ⟨s, rfl⟩
  · rfl
  · exact descriptor_after ..

theorem Step.sound {p q : Part} (step : Step host patch p q) (sound : p.Sound) : q.Sound := by
  rcases step.value with same | admits
  · rw [Sound, same, step.descriptor]
    exact sound
  · exact .inr admits

/-- A value is never given up. -/
theorem Step.value_ne_unset {p q : Part} (step : Step host patch p q) (given : p.value ≠ .unset) :
    q.value ≠ .unset := by
  rcases step.value with same | admits
  · rwa [same]
  · exact admits.ne_unset

end Part

namespace Instance

theorem step_of_updateParts {σ : Type} (host : Host σ) (patch : Patch) {content : Node} {s : σ}
    {parts : List Part} {k : Nat} {q : Part}
    (found : (updateParts host patch content s parts).updated.parts[k]? = some q) :
    ∃ p, parts[k]? = some p ∧ Part.Step host patch p q := by
  induction parts generalizing content s k with
  | nil => cases found
  | cons p rest ih =>
    simp only [updateParts] at found
    cases outcome : (p.react host patch s).1.error? with
    | some error =>
      simp only [outcome] at found
      cases k with
      | zero => exact ⟨p, rfl, .inr ⟨s, (Option.some.inj found).symm⟩⟩
      | succ k => exact ⟨q, found, .inl rfl⟩
    | none =>
      simp only [outcome] at found
      cases k with
      | zero => exact ⟨p, rfl, .inr ⟨s, (Option.some.inj found).symm⟩⟩
      | succ k => exact ih found

/-- Each part of an updated instance comes from the one in its place, also if the update failed. -/
theorem step_of_update {σ : Type} (host : Host σ) (patch : Patch) {i : Instance} {s : σ} {k : Nat}
    {q : Part} (found : (i.update host patch s).updated.parts[k]? = some q) :
    ∃ p, i.parts[k]? = some p ∧ Part.Step host patch p q :=
  step_of_updateParts host patch found

/-- What becomes of an instance by updates, those that fail included. Functions, their state and the
shared lists may be others each time. -/
inductive Later (i : Instance) : Instance → Prop where
  | now : Later i i
  | updated {j : Instance} {σ : Type} (host : Host σ) (patch : Patch) (s : σ) :
    Later i j → Later i (j.update host patch s).updated

namespace Later

variable {i j : Instance}

theorem overlays {base : Node} (later : i.Later j) (overlays : i.Overlays base) :
    j.Overlays base := by
  induction later with
  | now => exact overlays
  | updated host patch s _ ih => exact ih.update

theorem seats (later : i.Later j) : j.seats = i.seats := by
  induction later with
  | now => rfl
  | updated host patch s _ ih => exact seats_update.trans ih

/-- What each step keeps of a part holds of the parts for life. -/
theorem forall_parts {holds : Part → Prop}
    (kept : ∀ {σ : Type} {host : Host σ} {patch : Patch} {p q : Part},
      Part.Step host patch p q → holds p → holds q)
    (later : i.Later j) (first : ∀ p ∈ i.parts, holds p) : ∀ p ∈ j.parts, holds p := by
  induction later with
  | now => exact first
  | updated host patch s _ ih =>
    intro q member
    obtain ⟨k, found⟩ := List.mem_iff_getElem?.mp member
    obtain ⟨p, before, step⟩ := step_of_update host patch found
    exact kept step (ih p (List.mem_of_getElem? before))

theorem trans {k : Instance} (first : i.Later j) (second : j.Later k) : i.Later k := by
  induction second with
  | now => exact first
  | updated host patch s _ ih => exact .updated host patch s ih

theorem value_ne_unset (later : i.Later j) {k : Nat} {p q : Part} (before : i.parts[k]? = some p)
    (after : j.parts[k]? = some q) (given : p.value ≠ .unset) : q.value ≠ .unset := by
  induction later generalizing q with
  | now => cases before.symm.trans after; exact given
  | updated host patch s _ ih =>
    obtain ⟨r, between, step⟩ := step_of_update host patch after
    exact step.value_ne_unset (ih between)

end Later

theorem later_updateAll {σ : Type} (host : Host σ) (patches : List Patch) (i : Instance) (s : σ) :
    i.Later (updateAll host patches i s).updated := by
  induction patches generalizing i s with
  | nil => exact .now
  | cons patch rest ih =>
    have first : i.Later (i.update host patch s).updated := .updated host patch s .now
    cases outcome : (i.update host patch s).error with
    | some error =>
      rw [updateAll_of_failed host outcome]
      exact first
    | none =>
      rw [updateAll_of_passed host outcome]
      exact first.trans (ih _ _)

/-- The tree of an instance over the content it was made from. Each part owns one field, which was
vacant; it shows the part's value, and as long as there is none it is as compiled. Tags and child
lists are those of the content, and so is every field that no part owns: comments, static texts,
static attributes and other properties. -/
structure Displays (base : Node) (i : Instance) : Prop where
  shape : i.content.shape = base.shape
  vacant : ∀ p ∈ i.parts, ∃ n, base.at? p.path = some n ∧ p.descriptor.VacantAt n
  apart : (i.parts.map Part.target).Nodup
  shown : ∀ p ∈ i.parts, p.value ≠ .unset →
    p.descriptor.Shows p.value (i.content.heldAt p.path p.descriptor.field)
  waiting : ∀ p ∈ i.parts, p.value = .unset →
    i.content.heldAt p.path p.descriptor.field = base.heldAt p.path p.descriptor.field
  still : ∀ path f, (path, f) ∉ i.parts.map Part.target →
    i.content.heldAt path f = base.heldAt path f

theorem Overlays.displays {base : Node} {i : Instance} (overlays : i.Overlays base)
    (sound : ∀ p ∈ i.parts, p.Sound)
    (vacant : ∀ seat ∈ i.seats, ∃ n, base.at? seat.1 = some n ∧ seat.2.VacantAt n) :
    i.Displays base := by
  refine ⟨overlays.shape, ?_, overlays.apart, ?_, ?_, overlays.free⟩
  · intro p member
    exact vacant (p.path, p.descriptor)
      (List.mem_map_of_mem (f := fun p => (p.path, p.descriptor)) member)
  · intro p member given
    have admits := (sound p member).resolve_left given
    have set : Part.isUnset p.value = false := by
      cases value : p.value <;> first | rfl | exact absurd value given
    rw [overlays.owned p member, Part.holds, set, if_neg Bool.false_ne_true]
    exact admits.shows
  · intro p member missing
    rw [overlays.owned p member, Part.holds, missing]
    rfl

end Instance

namespace Template

variable {config : Config} {source : Node} {made : Compiled}

theorem Outcome.vacant (outcome : Outcome config source made)
    (distinct : source.AllAttributes fun a => a.Keyed ∧ a.Apart config) :
    ∀ seat ∈ (Instance.ofLabels made.template.content (Compile.labels config source)).seats,
      ∃ n, made.template.content.at? seat.1 = some n ∧ seat.2.VacantAt n := by
  intro seat member
  obtain ⟨p, inside, rfl⟩ := List.mem_map.mp member
  obtain ⟨n, bindings, found, -, bound, labelled⟩ := Instance.part_at outcome distinct inside
  exact ⟨n, found, labelled.vacant bound⟩

/-- Over its whole life an instance displays the values of its parts over the compiled content. The
parts stay in their places with their bindings, and one that has a value never loses it. -/
theorem instances_display (fit : source.Compilable)
    (keyed : source.AllAttributes Attributes.Keyed)
    (apart : source.AllAttributes (Attributes.Apart config))
    (done : Template.compile config source = .ok made) :
    ∃ fresh, Instance.ofTemplate made.template = .ok fresh ∧
      ∀ i, fresh.Later i →
        i.Displays made.template.content ∧
        i.parts.map (fun p => (p.path, p.descriptor)) =
          fresh.parts.map (fun p => (p.path, p.descriptor)) ∧
        ∀ j, i.Later j → ∀ (k : Nat) (p q : Part), i.parts[k]? = some p → j.parts[k]? = some q →
          p.value ≠ .unset → q.value ≠ .unset := by
  obtain ⟨compiled, same, outcome⟩ := compile_outcome config fit
  cases done.symm.trans same
  have distinct : source.AllAttributes fun a => a.Keyed ∧ a.Apart config :=
    fun n member => ⟨keyed n member, apart n member⟩
  have start := Instance.ofTemplate_eq outcome
  refine ⟨_, start, fun i later => ⟨?_, later.seats, fun j more k p q => more.value_ne_unset⟩⟩
  refine (later.overlays (Instance.overlays_fresh outcome distinct)).displays ?_ ?_
  · refine later.forall_parts Part.Step.sound fun p member => .inl ?_
    rw [Instance.fresh_of_ofTemplate start member]
    rfl
  · rw [later.seats]
    exact outcome.vacant distinct

def guardedAttributes : Attributes :=
  [(some "title", some "[word]"), (some "?hidden", some "[tally(word)]"), (some "id", some "a"),
    (some ".item", some "[word]")]

/-- A call stands between bindings to a key. -/
def guardedSource : Node :=
  .fragment [.comment "[word]", .element "p" guardedAttributes [] [.text "[word]!"]]

def guardedCompiled : Compiled :=
  ⟨⟨.fragment [.comment "[word]",
      .element "p" [(some "id", some "a")] [] [.text "", .text "!"]],
    [(0, [⟨.attributeValue, "word", some "title"⟩,
        ⟨.booleanAttribute, "tally(word)", some "hidden"⟩, ⟨.property, "word", some "item"⟩]),
      (1, [⟨.text, "word", none⟩])]⟩, 3⟩

def guardedInstance : Instance :=
  ⟨guardedCompiled.template.content, Instance.bind guardedCompiled.template.table 0
    guardedCompiled.template.content.spots⟩

/-- What is given for the function cannot be called. -/
def rejectedPatch : Patch := [("word", .str "b"), ("tally", .int 3)]

theorem guardedSource_compilable : guardedSource.Compilable :=
  ⟨by decide, by decide, by unfold Node.AllAttributes; decide⟩

theorem guardedSource_keyed : guardedSource.AllAttributes Attributes.Keyed := by
  unfold Node.AllAttributes
  decide

theorem guardedSource_apart : guardedSource.AllAttributes (Attributes.Apart squareBrackets) := by
  have bound : Compile.boundAttributes squareBrackets guardedAttributes =
      [⟨.attributeValue, "word", some "title"⟩, ⟨.booleanAttribute, "tally(word)", some "hidden"⟩,
        ⟨.property, "word", some "item"⟩] := by cbv
  have static : Compile.staticAttributes squareBrackets guardedAttributes =
      [(some "id", some "a")] := by cbv
  have element : Attributes.Apart squareBrackets guardedAttributes := by
    rw [Attributes.Apart, bound, static]
    decide
  intro n member
  simp only [guardedSource, Node.allNodes, Node.allNodesOf, List.append_nil, List.cons_append,
    List.nil_append, List.mem_cons, List.not_mem_nil, or_false] at member
  rcases member with rfl | rfl | rfl | rfl
  · exact Attributes.apart_nil _
  · exact Attributes.apart_nil _
  · exact element
  · exact Attributes.apart_nil _

theorem guardedSource_compiles :
    Template.compile squareBrackets guardedSource = .ok guardedCompiled := by cbv

theorem guardedInstance_made : Instance.ofTemplate guardedCompiled.template = .ok guardedInstance :=
  rfl

theorem rejectedPatch_stops : (guardedInstance.update (Stock.host #[]) rejectedPatch
    Supply.start).error = some (.notCallable "tally(word)" "tally" "int") := by decide

theorem guardedInstance_displays : guardedSource.Compilable ∧
    guardedSource.AllAttributes Attributes.Keyed ∧
    guardedSource.AllAttributes (Attributes.Apart squareBrackets) ∧
    Template.compile squareBrackets guardedSource = .ok guardedCompiled ∧
    (guardedInstance.update (Stock.host #[]) rejectedPatch Supply.start).error ≠ none ∧
    (guardedInstance.update (Stock.host #[]) rejectedPatch Supply.start).updated.Displays
      guardedCompiled.template.content := by
  obtain ⟨fresh, start, displays⟩ := instances_display guardedSource_compilable
    guardedSource_keyed guardedSource_apart guardedSource_compiles
  cases guardedInstance_made.symm.trans start
  refine ⟨guardedSource_compilable, guardedSource_keyed, guardedSource_apart,
    guardedSource_compiles, ?_, (displays _ (.updated _ _ _ .now)).1⟩
  rw [rejectedPatch_stops]
  exact Option.some_ne_none _

end Template
end LiveTemplate
