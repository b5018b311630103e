import LiveTemplate.Function.Stock
import LiveTemplate.Proofs.Instance.Edits
import LiveTemplate.Proofs.Template.Alignment
import LiveTemplate.Proofs.Template.Targets

/-! Flags and their attributes. A flag that is turned off removes its attribute, and one that is
turned on puts it there, where a value that the attribute has already is kept. So a flag decides
its attribute as long as nothing else is known to set it; an attribute of the same name that was
compiled with a value, or a binding to the same name, can overrule it. -/
namespace LiveTemplate

/-- Nothing, or an attribute without a value. -/
def Bare (held : Option Held) : Prop := held = none ∨ held = some (.attributeValue none)

theorem Bare.leaves {before : Option Held} (bare : Bare before) (name : FieldName) (on : Bool) :
    Bare ((Edit.toggleAttribute name on).leaves before) := by
  cases on with
  | false => exact .inl rfl
  | true => rcases bare with rfl | rfl <;> exact .inr rfl

namespace Node

/-- Turning an attribute on or off gives it no value. -/
theorem bare_editAt {root : Node} {path : Path} {name : FieldName}
    (bare : Bare (root.heldAt path (.attributeNamed name))) (on : Bool) :
    Bare ((root.editAt path (.toggleAttribute name on)).heldAt path (.attributeNamed name)) := by
  rw [heldAt_editAt_eq, if_pos rfl]
  rw [heldAt] at bare
  cases found : root.at? path with
  | none => exact .inl rfl
  | some n =>
    rw [found, Option.bind_some] at bare
    cases n with
    | element tag attributes properties cs =>
      have held := held_apply (e := .toggleAttribute name on)
        (n := .element tag attributes properties cs) rfl (.attributeNamed name)
      rw [Option.bind_some, held.trans (if_pos rfl)]
      exact bare.leaves name on
    | _ => exact .inl rfl

/-- An attribute that only flags have touched has no value. -/
theorem bare_editAll {edits : List (Path × Edit)} {path : Path} {name : FieldName}
    (flags : ∀ s ∈ edits, (∃ on, s = (path, .toggleAttribute name on)) ∨
      (s.1, s.2.field) ≠ (path, .attributeNamed name)) {root : Node}
    (bare : Bare (root.heldAt path (.attributeNamed name))) :
    Bare ((root.editAll edits).heldAt path (.attributeNamed name)) := by
  induction edits generalizing root with
  | nil => exact bare
  | cons s edits ih =>
    obtain ⟨here, others⟩ := List.forall_mem_cons.mp flags
    refine ih others ?_
    rcases here with ⟨on, rfl⟩ | apart
    · exact bare_editAt bare on
    · rwa [heldAt_editAt_of_ne apart]

end Node

/-- What a tree holds as the attribute that a part's binding names. -/
def Part.attributeIn (content : Node) (p : Part) : Option Held :=
  content.heldAt p.path (.attributeNamed p.descriptor.name)

/-- What a flag makes of its attribute: off removes it, and on puts it there, with the value that it
has already. -/
def flagged (on : Bool) (before : Option Held) : Option Held :=
  if on then some (before.getD (.attributeValue none)) else none

namespace Instance

/-- How the flag `p` of `i` stands to its attribute when the edits have led to `j`. Its last edit
tells what the attribute is, unless another part of that target has made an edit since. A flag of an
attribute that no other part sets and that came without a value decides alone. -/
structure Decides (edits : List (Nat × Edit)) (i j : Instance) (place : Nat) (p : Part)
    (on : Bool) : Prop where
  element : (j.content.at? p.path).map Node.type = some .element
  last : ∃ earlier later,
    edits = earlier ++ (place, .toggleAttribute p.descriptor.name on) :: later ∧
    (∀ edit ∈ later, edit.1 ≠ place) ∧
    ((∀ edit ∈ later, i.targets[edit.1]? ≠ some p.target) → p.attributeIn j.content =
      flagged on (p.attributeIn (i.content.editAll (located i.targets earlier))))
  alone : i.Undisputed place → Bare (p.attributeIn i.content) →
    p.attributeIn j.content = if on then some (.attributeValue none) else none

theorem cast_of_flag {shelf : Shelf} {d : Descriptor} {v : Value} {applied : Applied}
    (kind : d.kind = .booleanAttribute) (cast : d.cast shelf v = .ok applied) :
    ∃ on, applied = ⟨.bool on, .toggleAttribute d.name on⟩ := by
  rcases Descriptor.cast_cases cast with
    ⟨other, -⟩ | ⟨other, -⟩ | ⟨-, on, -, made⟩ | ⟨other, -⟩
  · rw [kind] at other; cases other
  · rw [kind] at other; cases other
  · exact ⟨on, made⟩
  · rw [kind] at other; cases other

section Run

variable {σ : Type} {host : Host σ} {patches : List Patch} {i : Instance} {s : σ} {place : Nat}
  {p : Part}

theorem target_of_flag (kind : p.descriptor.kind = .booleanAttribute) :
    p.target = (p.path, .attributeNamed p.descriptor.name) := by
  simp [Part.target, Descriptor.field, kind]

/-- The attribute of an undisputed flag has no value at any time, if it had none to begin with. -/
theorem bare_of_undisputed (undisputed : i.Undisputed place) (part : i.parts[place]? = some p)
    (kind : p.descriptor.kind = .booleanAttribute) {first : List (Nat × Edit)}
    (made : ∀ edit ∈ first, edit ∈ edits host patches i s) (bare : Bare (p.attributeIn i.content)) :
    Bare (p.attributeIn (i.content.editAll (located i.targets first))) := by
  refine Node.bare_editAll (fun w member => ?_) bare
  obtain ⟨⟨other, e⟩, inside, found⟩ := List.mem_filterMap.mp member
  obtain ⟨q, applied, foreign, rfl, applies⟩ := mem_edits (made _ inside)
  rw [target_at foreign, Option.map_some, Option.some.injEq] at found
  subst found
  by_cases own : other = place
  · subst own
    cases part.symm.trans foreign
    obtain ⟨⟨v, -, cast⟩, -⟩ := applies
    obtain ⟨on, rfl⟩ := cast_of_flag kind cast
    exact .inl ⟨on, rfl⟩
  · refine .inr fun same => undisputed other own ?_
    rw [applies.field] at same
    rw [target_at foreign, target_at part, target_of_flag kind, ← same]
    rfl

theorem LastEdit.decides {value : Value} {earlier later : List (Nat × Edit)} {applied : Applied}
    (edit : LastEdit host (edits host patches i s) place p value earlier later applied)
    (part : i.parts[place]? = some p) (kind : p.descriptor.kind = .booleanAttribute)
    (stands : (i.content.at? p.path).map Node.type = some p.nodeType) :
    ∃ on, value = .bool on ∧
      Decides (edits host patches i s) i (updateAll host patches i s).updated place p on := by
  obtain ⟨v, -, cast⟩ := edit.applies.1
  obtain ⟨on, rfl⟩ := cast_of_flag kind cast
  have fits := edit.applies.2
  have shown (untouched : ∀ e ∈ later, i.targets[e.1]? ≠ some p.target) :
      p.attributeIn (updateAll host patches i s).updated.content =
        flagged on (p.attributeIn (i.content.editAll (located i.targets earlier))) := by
    have held := edit.heldAt part stands untouched
    rw [show p.descriptor.field = .attributeNamed p.descriptor.name from
      congrArg Prod.snd (target_of_flag kind)] at held
    refine held.trans ?_
    cases on <;> rfl
  refine ⟨on, edit.value_eq, ?_, ⟨earlier, later, edit.split, edit.last, shown⟩, ?_⟩
  · rw [content_updateAll, Node.type_at?_editAll, stands]
    exact congrArg some (of_decide_eq_true fits)
  · intro undisputed bare
    rw [shown (untouched_of_undisputed undisputed part edit.last)]
    have before := bare_of_undisputed undisputed part kind
      (fun e (member : e ∈ earlier) => by rw [edit.split]; exact List.mem_append_left _ member) bare
    rcases before with none | bare
    · rw [none]; rfl
    · rw [bare]; rfl

/-- After a run that nothing stops, each flag that has a value stands so to its attribute. In an
instance of a compiled template the only other parts of its target are bindings of the attribute to
a value. -/
theorem flags_decide {t : Template} (made : ofTemplate t = .ok i)
    (fine : (updateAll host patches i s).error = none) (part : i.parts[place]? = some p)
    (kind : p.descriptor.kind = .booleanAttribute) :
    (∃ q, (updateAll host patches i s).updated.parts[place]? = some q ∧
      q.descriptor = p.descriptor ∧
      (q.value = .unset ∨ ∃ on, q.value = .bool on ∧
        Decides (edits host patches i s) i (updateAll host patches i s).updated place p on)) ∧
    ∀ (config : Config) (source : Node) (compiled : Template.Compiled), source.Compilable →
      source.AllAttributes Attributes.Keyed → Template.compile config source = .ok compiled →
      compiled.template = t → ∀ other q, other ≠ place → i.parts[other]? = some q →
        p.target = q.target → q.descriptor.kind = .attributeValue := by
  constructor
  · obtain ⟨q, final, descriptor, ⟨kept, -⟩ | ⟨earlier, later, applied, edit⟩⟩ :=
      tells_of_updateAll fine part
    · refine ⟨q, final, descriptor, .inl (kept.trans ?_)⟩
      rw [fresh_of_ofTemplate made (List.mem_of_getElem? part)]
      rfl
    · exact ⟨q, final, descriptor, .inr (edit.decides part kind
        (stands_of_ofTemplate made (List.mem_of_getElem? part)))⟩
  · rintro config source compiled fit keyed done rfl other q apart foreign same
    obtain ⟨again, first, outcome⟩ := Template.compile_outcome config fit
    cases done.symm.trans first
    cases (ofTemplate_eq outcome).symm.trans made
    rcases collides_of_target_eq outcome keyed part foreign apart same with
      ⟨-, value⟩ | ⟨value, -⟩
    · exact value
    · rw [kind] at value
      cases value

end Run

/-- One flag shares its target with an attribute that is not bound, the other with one that is. -/
def contestedSource : Node :=
  .element "p" [(some "hidden", some "x"), (some "?hidden", some "[flag]"),
    (some "title", some "[word]"), (some "?title", some "[flag]")] [] []

def contestedCompiled : Template.Compiled :=
  ⟨⟨.element "p" [(some "hidden", some "x")] [] [],
    [(0, [⟨.booleanAttribute, "flag", some "hidden"⟩, ⟨.attributeValue, "word", some "title"⟩,
      ⟨.booleanAttribute, "flag", some "title"⟩])]⟩, 1⟩

def contestedInstance : Instance :=
  ⟨contestedCompiled.template.content, bind contestedCompiled.template.table 0
    contestedCompiled.template.content.spots⟩

/-- Both flags go on; both go off; and then the bound attribute is set again. -/
def contestedPatches : List Patch :=
  [[("flag", .bool true), ("word", .str "w")], [("flag", .bool false)], [("word", .str "v")]]

theorem contestedSource_compiles :
    Template.compile Template.squareBrackets contestedSource = .ok contestedCompiled := by cbv

theorem contestedInstance_made :
    ofTemplate contestedCompiled.template = .ok contestedInstance := rfl

/-- The part in a place and its attribute after the first of the contested patches. -/
def contestedAfter (count place : Nat) : Option (Value × Option Held) :=
  let reached := (updateAll (Stock.host #[]) (contestedPatches.take count) contestedInstance
    Supply.start).updated
  reached.parts[place]?.map fun p => (p.value, p.attributeIn reached.content)

theorem contestedPatches_pass : (updateAll (Stock.host #[]) contestedPatches contestedInstance
    Supply.start).error = none := by decide

/-- A flag that is on, and its attribute has a value: one it had before. A flag that is off, and its
attribute is present: it was bound to a value, which was set later. -/
theorem flags_overruled :
    Template.compile Template.squareBrackets contestedSource = .ok contestedCompiled ∧
    ofTemplate contestedCompiled.template = .ok contestedInstance ∧
    (updateAll (Stock.host #[]) contestedPatches contestedInstance Supply.start).error = none ∧
    contestedInstance.parts.map (·.descriptor.kind) =
      [.booleanAttribute, .attributeValue, .booleanAttribute] ∧
    contestedAfter 1 0 = some (.bool true, some (.attributeValue (some "x"))) ∧
    contestedAfter 3 2 = some (.bool false, some (.attributeValue (some "v"))) :=
  ⟨contestedSource_compiles, contestedInstance_made, contestedPatches_pass, rfl, rfl, rfl⟩

theorem contestedSource_compilable : contestedSource.Compilable :=
  ⟨by decide, by decide, by unfold Node.AllAttributes; decide⟩

theorem contestedSource_keyed : contestedSource.AllAttributes Attributes.Keyed := by
  unfold Node.AllAttributes
  decide

theorem contestedFlag_decides :
    ofTemplate contestedCompiled.template = .ok contestedInstance ∧
    (updateAll (Stock.host #[]) contestedPatches contestedInstance Supply.start).error = none ∧
    ∃ p, contestedInstance.parts[2]? = some p ∧ p.descriptor.kind = .booleanAttribute ∧
      (∃ q, (updateAll (Stock.host #[]) contestedPatches contestedInstance
        Supply.start).updated.parts[2]? = some q ∧ q.descriptor = p.descriptor ∧
        (q.value = .unset ∨ ∃ on, q.value = .bool on ∧
          Decides (edits (Stock.host #[]) contestedPatches contestedInstance Supply.start)
            contestedInstance (updateAll (Stock.host #[]) contestedPatches contestedInstance
              Supply.start).updated 2 p on)) ∧
      contestedSource.Compilable ∧ contestedSource.AllAttributes Attributes.Keyed ∧
      Template.compile Template.squareBrackets contestedSource = .ok contestedCompiled ∧
      ∀ other q, other ≠ 2 → contestedInstance.parts[other]? = some q → p.target = q.target →
        q.descriptor.kind = .attributeValue := by
  obtain ⟨p, part, kind⟩ : ∃ p, contestedInstance.parts[2]? = some p ∧
      p.descriptor.kind = .booleanAttribute := ⟨_, rfl, rfl⟩
  obtain ⟨stands, others⟩ := flags_decide contestedInstance_made contestedPatches_pass part kind
  exact ⟨contestedInstance_made, contestedPatches_pass, p, part, kind, stands,
    contestedSource_compilable, contestedSource_keyed, contestedSource_compiles,
    others Template.squareBrackets contestedSource contestedCompiled contestedSource_compilable
      contestedSource_keyed contestedSource_compiles rfl⟩

end Instance
end LiveTemplate
