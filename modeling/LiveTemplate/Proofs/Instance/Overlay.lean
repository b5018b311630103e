import LiveTemplate.Proofs.Instance.Reactions

/-! Trees under their parts. Each part owns one field of one node; whatever patches come, and
whether they fail or not, a field shows the value of the part that owns it and is else as in the
base. -/
namespace LiveTemplate

namespace Descriptor

/-- The field that the binding sets. -/
def field (d : Descriptor) : Field :=
  match d.kind with
  | .text => .text
  | .attributeValue | .booleanAttribute => .attributeNamed d.name
  | .property | .other _ => .propertyNamed d.name

/-- What the field holds once a value has been applied. A true flag shows as an attribute without a
value. -/
def shown (d : Descriptor) (v : Value) : Option Held :=
  match d.kind, v with
  | .text, .scalar _ (.str s) => some (.text s)
  | .attributeValue, .scalar _ (.str s) => some (.attributeValue (some s))
  | .booleanAttribute, .bool true => some (.attributeValue none)
  | .property, v => some (.propertyValue v)
  | _, _ => none

theorem field_of_cast {shelf : Shelf} {d : Descriptor} {v : Value} {applied : Applied}
    (cast : d.cast shelf v = .ok applied) : applied.edit.field = d.field := by
  unfold field
  rcases cast_cases cast with
    ⟨kind, s, -, rfl⟩ | ⟨kind, s, -, rfl⟩ | ⟨kind, b, -, rfl⟩ | ⟨kind, rfl⟩
  all_goals rw [kind]; rfl

/-- A flag is set on an attribute that is absent or has no value. -/
theorem leaves_of_cast {shelf : Shelf} {d : Descriptor} {v : Value} {applied : Applied}
    (cast : d.cast shelf v = .ok applied) {before : Option Held}
    (bare : d.kind = .booleanAttribute → before = none ∨ before = some (.attributeValue none)) :
    applied.edit.leaves before = d.shown applied.value := by
  unfold shown
  rcases cast_cases cast with
    ⟨kind, s, -, rfl⟩ | ⟨kind, s, -, rfl⟩ | ⟨kind, b, -, rfl⟩ | ⟨kind, rfl⟩
  · rw [kind]; rfl
  · rw [kind]; rfl
  · rw [kind]
    rcases bare kind with rfl | rfl <;> cases b <;> rfl
  · rw [kind]; rfl

end Descriptor

namespace Part

/-- The field that the part owns, with the path to its node. -/
def target (p : Part) : Path × Field := (p.path, p.descriptor.field)

/-- What the part's field holds over the base: what shows its value, once it has one. -/
def holds (base : Node) (p : Part) : Option Held :=
  if isUnset p.value then base.heldAt p.path p.descriptor.field else p.descriptor.shown p.value

@[simp] theorem target_after (p : Part) (r : Reaction) : (p.after r).target = p.target := by
  simp [target]

/-- A part writes a cast value that fits its node. -/
theorem wrote_cases {σ : Type} {host : Host σ} {patch : Patch} {p : Part} {s : σ}
    {e : Evaluator} {applied : Applied} (wrote : (p.react host patch s).1 = .wrote e applied) :
    ∃ v, v ≠ .unset ∧ p.descriptor.cast host.shelf v = .ok applied ∧
      applied.edit.fits p.nodeType = true := by
  unfold react at wrote
  split at wrote
  · split at wrote
    · rename_i raw e' s' _
      dsimp only at wrote
      unfold settle at wrote
      split at wrote
      · cases wrote
      · rename_i given
        cases cast : p.descriptor.cast host.shelf raw with
        | error error => rw [cast] at wrote; cases wrote
        | ok a =>
          simp only [cast, write] at wrote
          split at wrote
          · split at wrote
            · cases wrote
              refine ⟨raw, ?_, cast, by assumption⟩
              rintro rfl
              exact given rfl
            · cases wrote
          · cases wrote
    · cases wrote
  · cases wrote

end Part

namespace Instance

/-- The instance's tree is the base with every part's value in the field that the part owns. -/
structure Overlays (base : Node) (i : Instance) : Prop where
  shape : i.content.shape = base.shape
  placed : ∀ p ∈ i.parts, (i.content.at? p.path).map Node.type = some p.nodeType
  apart : (i.parts.map Part.target).Nodup
  bare : ∀ p ∈ i.parts, p.descriptor.kind = .booleanAttribute →
    base.heldAt p.path p.descriptor.field = none
  owned : ∀ p ∈ i.parts, i.content.heldAt p.path p.descriptor.field = p.holds base
  free : ∀ path f, (path, f) ∉ i.parts.map Part.target →
    i.content.heldAt path f = base.heldAt path f

variable {base content : Node} {before behind : List Part} {p : Part}

/-- A part's field with a flag shows nothing or an attribute without a value. -/
theorem Overlays.flag {i : Instance} (overlays : i.Overlays base) (member : p ∈ i.parts)
    (kind : p.descriptor.kind = .booleanAttribute) :
    i.content.heldAt p.path p.descriptor.field = none ∨
      i.content.heldAt p.path p.descriptor.field = some (.attributeValue none) := by
  rw [overlays.owned p member, Part.holds]
  split
  · exact .inl (overlays.bare p member kind)
  · unfold Descriptor.shown
    rw [kind]
    cases p.value with
    | bool b => cases b <;> simp
    | _ => exact .inl rfl

/-- A part that reacts may change its own field and nothing else. -/
theorem Overlays.step {after : Node} {r : Reaction} (shape : after.shape = content.shape)
    (types : ∀ path, (after.at? path).map Node.type = (content.at? path).map Node.type)
    (here : after.heldAt p.path p.descriptor.field = (p.after r).holds base)
    (elsewhere : ∀ path f, (path, f) ≠ p.target → after.heldAt path f = content.heldAt path f)
    (overlays : Overlays base ⟨content, before ++ p :: behind⟩) :
    Overlays base ⟨after, before ++ p.after r :: behind⟩ := by
  have targets : (before ++ p.after r :: behind).map Part.target =
      (before ++ p :: behind).map Part.target := by simp
  have others : ∀ q, q ∈ before ∨ q ∈ behind → q.target ≠ p.target := by
    have apart := overlays.apart
    rw [List.map_append, List.map_cons, List.nodup_middle, List.nodup_cons,
      ← List.map_append] at apart
    intro q member same
    exact apart.1 (same ▸ List.mem_map_of_mem (List.mem_append.mpr member))
  have placed := overlays.placed
  have bare := overlays.bare
  have owned := overlays.owned
  simp only [List.forall_mem_append, List.forall_mem_cons] at placed bare owned
  refine ⟨shape.trans overlays.shape, ?_, ?_, ?_, ?_, ?_⟩
  · simp only [List.forall_mem_append, List.forall_mem_cons, types]
    simpa using placed
  · rw [targets]; exact overlays.apart
  · simp only [List.forall_mem_append, List.forall_mem_cons]
    simpa using bare
  · simp only [List.forall_mem_append, List.forall_mem_cons]
    refine ⟨fun q member => ?_, by simpa using here, fun q member => ?_⟩
    · rw [elsewhere _ _ (others q (.inl member))]; exact owned.1 q member
    · rw [elsewhere _ _ (others q (.inr member))]; exact owned.2.2 q member
  · intro path f outside
    rw [targets] at outside
    have foreign : (path, f) ≠ p.target := by
      rintro same
      exact outside (same ▸ List.mem_map_of_mem (by simp))
    rw [elsewhere path f foreign]
    exact overlays.free path f outside

theorem Overlays.wrote {shelf : Shelf} {v : Value} {e : Evaluator} {applied : Applied}
    (given : v ≠ .unset) (cast : p.descriptor.cast shelf v = .ok applied)
    (fits : applied.edit.fits p.nodeType = true)
    (overlays : Overlays base ⟨content, before ++ p :: behind⟩) :
    Overlays base ⟨content.editAt p.path applied.edit,
      before ++ p.after (.wrote e applied) :: behind⟩ := by
  have member : p ∈ before ++ p :: behind := by simp
  obtain ⟨n, found, type⟩ := Option.map_eq_some_iff.mp (overlays.placed p member)
  rw [← type] at fits
  have held := Node.heldAt_editAt found fits
  rw [Descriptor.field_of_cast cast] at held
  refine overlays.step (Node.shape_editAt ..) (Node.type_at?_editAt _ _ · _) ?_ ?_
  · have set : Part.isUnset applied.value = false := by
      have present := Descriptor.cast_ne_unset given cast
      cases value : applied.value <;> first | rfl | exact absurd value present
    rw [held, if_pos ⟨rfl, rfl⟩, Descriptor.leaves_of_cast cast (overlays.flag member)]
    simp [Part.holds, Part.after, set]
  · intro path f foreign
    rw [held, if_neg]
    rintro ⟨rfl, rfl⟩
    exact foreign rfl

theorem Overlays.react {σ : Type}
    (overlays : Overlays base ⟨content, before ++ p :: behind⟩)
    (host : Host σ) (patch : Patch) (s : σ) :
    Overlays base ⟨applyReaction p (p.react host patch s).1 content,
      before ++ p.after (p.react host patch s).1 :: behind⟩ := by
  cases reaction : (p.react host patch s).1 with
  | wrote e applied =>
    obtain ⟨v, given, cast, fits⟩ := Part.wrote_cases reaction
    exact overlays.wrote given cast fits
  | idle | withheld | settled | refused | failed =>
    refine overlays.step rfl (fun _ => rfl) ?_ (fun _ _ _ => rfl)
    exact overlays.owned p (by simp)

/-- An update keeps the tree what its parts make of the base, also if it fails. -/
theorem Overlays.updateParts {σ : Type} {host : Host σ} {patch : Patch} {parts : List Part} {s : σ}
    (overlays : Overlays base ⟨content, before ++ parts⟩) :
    Overlays base ⟨(updateParts host patch content s parts).updated.content,
      before ++ (updateParts host patch content s parts).updated.parts⟩ := by
  induction parts generalizing before content s with
  | nil => exact overlays
  | cons p rest ih =>
    have reacted := overlays.react host patch s
    simp only [Instance.updateParts]
    cases (p.react host patch s).1.error? with
    | some error => exact reacted
    | none =>
      rw [List.append_cons] at reacted
      have later := ih reacted (s := (p.react host patch s).2)
      rw [← List.append_cons] at later
      exact later

theorem Overlays.update {σ : Type} {host : Host σ} {patch : Patch} {i : Instance} {s : σ}
    (overlays : i.Overlays base) : (i.update host patch s).updated.Overlays base := by
  have whole : Overlays base ⟨i.content, [] ++ i.parts⟩ := overlays
  exact whole.updateParts

theorem Overlays.updateAll {σ : Type} {host : Host σ} {patches : List Patch} {i : Instance} {s : σ}
    (overlays : i.Overlays base) : (updateAll host patches i s).updated.Overlays base := by
  induction patches generalizing i s with
  | nil => exact overlays
  | cons patch rest ih =>
    cases outcome : (i.update host patch s).error with
    | some error => rw [updateAll_of_failed host outcome]; exact overlays.update
    | none => rw [updateAll_of_passed host outcome]; exact ih overlays.update

end Instance
end LiveTemplate
