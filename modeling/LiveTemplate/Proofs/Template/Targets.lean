import LiveTemplate.Proofs.Instance.Overlay
import LiveTemplate.Proofs.Node.Attributes
import LiveTemplate.Proofs.Template.Labels

/-! The targets of compiled bindings. An element has its attributes under distinct names, so no two
of its bindings set one field unless a flag collides; a fresh instance is its own content under
parts without values. -/
namespace LiveTemplate

namespace Attributes

/-- The target of no flag is the name of an unbound attribute or of one that is bound to a value. -/
def Apart (config : Config) (attributes : Attributes) : Prop :=
  ∀ d ∈ Compile.boundAttributes config attributes, d.kind = .booleanAttribute →
    (Compile.staticAttributes config attributes).find? d.name = none ∧
      ∀ e ∈ Compile.boundAttributes config attributes, e.kind = .attributeValue → e.name ≠ d.name

theorem apart_nil (config : Config) : Apart config [] := fun _ member => nomatch member

end Attributes

/-- The node has nothing yet in the field that the binding sets: it is an empty text, or an element
without the attribute. A property may be there already. -/
def Descriptor.VacantAt (d : Descriptor) (n : Node) : Prop :=
  match d.kind with
  | .text => n = .text ""
  | .attributeValue | .booleanAttribute => n.isElement = true ∧ n.held d.field = none
  | .property => n.isElement = true
  | .other _ => False

/-- One is a flag and the other an attribute with a value. -/
def Descriptor.Collides (d e : Descriptor) : Prop :=
  (d.kind = .booleanAttribute ∧ e.kind = .attributeValue) ∨
    (d.kind = .attributeValue ∧ e.kind = .booleanAttribute)

theorem Descriptor.Collides.symm {d e : Descriptor} (collides : d.Collides e) : e.Collides d :=
  (Or.symm collides).imp And.symm And.symm

namespace Compile

/-- How the name of a bound attribute tells kind and target. -/
theorem bindingOf?_cases {config : Config} {a : FieldName × Option String} {d : Descriptor}
    (bound : bindingOf? config a = some d) :
    ∃ name, a.1 = some name ∧
      ((d.kind = .booleanAttribute ∧ ∃ target, d.name = some (String.ofList target) ∧
          name.toList = config.booleanMark.toList ++ target) ∨
        (d.kind = .property ∧ ∃ target, d.name = some (String.ofList target) ∧
          name.toList = config.propertyMark.toList ++ target) ∨
        (d.kind = .attributeValue ∧ d.name = some name)) := by
  obtain ⟨name, value⟩ := a
  cases name with
  | none => cases bound
  | some name =>
    obtain ⟨p, -, rfl⟩ := Option.map_eq_some_iff.mp bound
    refine ⟨name, rfl, ?_⟩
    unfold BindingKind.ofAttribute
    cases flag : Text.stripHead? config.booleanMark.toList name.toList with
    | some target => exact .inl ⟨rfl, target, rfl, Text.stripHead?_eq_some_iff.mp flag⟩
    | none =>
      cases property : Text.stripHead? config.propertyMark.toList name.toList with
      | some target =>
        exact .inr (.inl ⟨rfl, target, rfl, Text.stripHead?_eq_some_iff.mp property⟩)
      | none => exact .inr (.inr ⟨rfl, rfl⟩)

/-- One mark before two targets makes two names. -/
theorem name_of_target {mark : List Char} {a b : String} {s t : List Char}
    (first : a.toList = mark ++ s) (second : b.toList = mark ++ t)
    (same : some (String.ofList s) = some (String.ofList t)) : a = b := by
  have targets : s = t := String.ofList_injective (Option.some.inj same)
  exact String.toList_injective (by rw [first, second, targets])

/-- Two attributes of an element set one field only if one is a flag and the other has a value. -/
theorem collides_of_field_eq {config : Config} {a b : FieldName × Option String}
    (distinct : a.1 ≠ b.1) {d e : Descriptor} (first : bindingOf? config a = some d)
    (second : bindingOf? config b = some e) (same : d.field = e.field) : d.Collides e := by
  obtain ⟨m, nameOfFirst, kinds⟩ := bindingOf?_cases first
  obtain ⟨n, nameOfSecond, others⟩ := bindingOf?_cases second
  have names : m ≠ n := by
    rintro rfl
    exact distinct (nameOfFirst.trans nameOfSecond.symm)
  unfold Descriptor.field at same
  rcases kinds with ⟨kind, s, target, whole⟩ | ⟨kind, s, target, whole⟩ | ⟨kind, target⟩
  all_goals rcases others with
    ⟨other, t, goal, entire⟩ | ⟨other, t, goal, entire⟩ | ⟨other, goal⟩
  all_goals simp only [kind, other, Field.attributeNamed.injEq, Field.propertyNamed.injEq,
    reduceCtorEq] at same
  · exact absurd (name_of_target whole entire (target ▸ goal ▸ same)) names
  · exact .inl ⟨kind, other⟩
  · exact absurd (name_of_target whole entire (target ▸ goal ▸ same)) names
  · exact .inr ⟨kind, other⟩
  · exact absurd (Option.some.inj (target ▸ goal ▸ same)) names

theorem pairwise_boundAttributes {config : Config} {attributes : Attributes}
    (keyed : attributes.Keyed) : (boundAttributes config attributes).Pairwise fun d e =>
      d.field = e.field → d.Collides e := by
  rw [boundAttributes, List.pairwise_filterMap]
  exact (List.pairwise_map.mp keyed).imp fun names d first e second =>
    collides_of_field_eq names first second

theorem Labelled.pairwise {config : Config} {n : Node} {bindings : List Descriptor}
    (labelled : Labelled config Attributes.Keyed n bindings) :
    bindings.Pairwise fun d e => d.field = e.field → d.Collides e := by
  cases labelled with
  | hole p => exact List.pairwise_singleton _ _
  | static => exact .nil
  | element tag attributes properties cs keyed => exact pairwise_boundAttributes keyed

theorem field_ne_of_collides {config : Config} {attributes : Attributes}
    (apart : attributes.Apart config) {d e : Descriptor}
    (left : d ∈ boundAttributes config attributes) (right : e ∈ boundAttributes config attributes)
    (collides : d.field = e.field → d.Collides e) : d.field ≠ e.field := by
  intro same
  rcases collides same with ⟨kind, other⟩ | ⟨kind, other⟩
  all_goals
    unfold Descriptor.field at same
    rw [kind, other] at same
  · exact (apart d left kind).2 e right other (Field.attributeNamed.inj same).symm
  · exact (apart e right other).2 d left kind (Field.attributeNamed.inj same)

/-- No two bindings of an element set one field. -/
theorem nodup_fields {config : Config} {attributes : Attributes} (keyed : attributes.Keyed)
    (apart : attributes.Apart config) :
    ((boundAttributes config attributes).map Descriptor.field).Nodup := by
  rw [List.Nodup, List.pairwise_map]
  exact (pairwise_boundAttributes keyed).imp_of_mem fun left right =>
    field_ne_of_collides apart left right

theorem Labelled.nodup_fields {config : Config} {n : Node} {bindings : List Descriptor}
    (labelled : Labelled config (fun a => a.Keyed ∧ a.Apart config) n bindings) :
    (bindings.map Descriptor.field).Nodup := by
  cases labelled with
  | hole p => exact List.nodup_singleton _
  | static => exact List.nodup_nil
  | element tag attributes properties cs holds => exact Compile.nodup_fields holds.1 holds.2

/-- An attribute that is bound is not among those left in place. -/
theorem find?_staticAttributes_eq_none {config : Config} {attributes : Attributes}
    (keyed : attributes.Keyed) {a : FieldName × Option String} (member : a ∈ attributes)
    (bound : isBound config a = true) :
    (staticAttributes config attributes).find? a.1 = none := by
  cases found : (staticAttributes config attributes).find? a.1 with
  | none => rfl
  | some value =>
    obtain ⟨left, unbound⟩ := List.mem_filter.mp (Entries.mem_of_find? found)
    have same : a = (a.1, value) := List.inj_on_of_nodup_map keyed member left rfl
    rw [← same, bound] at unbound
    cases unbound

theorem isBound_of_bindingOf? {config : Config} {a : FieldName × Option String} {d : Descriptor}
    (binding : bindingOf? config a = some d) : isBound config a = true := by
  obtain ⟨_ | name, value⟩ := a
  · cases binding
  · obtain ⟨p, found, -⟩ := Option.map_eq_some_iff.mp binding
    exact Option.isSome_iff_exists.mpr ⟨p, found⟩

/-- Compiling leaves nothing in the field that a text or an attribute binding is to set. -/
theorem Labelled.vacant {config : Config} {n : Node} {bindings : List Descriptor}
    (labelled : Labelled config (fun a => a.Keyed ∧ a.Apart config) n bindings) {d : Descriptor}
    (member : d ∈ bindings) : d.VacantAt n := by
  cases labelled with
  | hole p =>
    cases List.mem_singleton.mp member
    rfl
  | static => cases member
  | element tag attributes properties cs holds =>
    obtain ⟨a, inside, bound⟩ := List.mem_filterMap.mp member
    obtain ⟨name, named, kinds⟩ := bindingOf?_cases bound
    unfold Descriptor.VacantAt Descriptor.field
    rcases kinds with ⟨kind, -⟩ | ⟨kind, -⟩ | ⟨kind, target⟩
    · simp [kind, Node.isElement, Node.held, (holds.2 d member kind).1]
    · simp [kind, Node.isElement]
    · have gone := find?_staticAttributes_eq_none holds.1 inside (isBound_of_bindingOf? bound)
      simp [kind, Node.isElement, Node.held, target, ← named, gone]

end Compile

namespace Instance

/-- Parts have one target only if they are at one node and their bindings set one field. -/
theorem pairwise_targets (related : Descriptor → Descriptor → Prop) {spots : List (Path × Node)}
    {labels : List (List Descriptor)} (paths : (spots.map Prod.fst).Nodup)
    (fields : ∀ bindings ∈ labels, bindings.Pairwise fun d e => d.field = e.field → related d e) :
    (List.zipWith partsAt spots labels).flatten.Pairwise fun p q =>
      p.target = q.target → related p.descriptor q.descriptor := by
  induction spots generalizing labels with
  | nil => simp
  | cons spot spots ih =>
    cases labels with
    | nil => simp
    | cons bindings labels =>
      obtain ⟨new, others⟩ := List.nodup_cons.mp paths
      obtain ⟨here, later⟩ := List.forall_mem_cons.mp fields
      rw [List.zipWith_cons_cons, List.flatten_cons, List.pairwise_append]
      refine ⟨?_, ih others later, ?_⟩
      · rw [partsAt, List.pairwise_map]
        exact here.imp fun related same => related (Prod.mk.inj same).2
      · intro p inHere q behind same
        obtain ⟨d, -, rfl⟩ := List.mem_map.mp inHere
        obtain ⟨index, other, -, found, -, e, -, rfl⟩ := mem_parts behind
        have path : other.1 = spot.1 := (Prod.mk.inj same).1.symm
        rw [← path] at new
        exact absurd (List.mem_map_of_mem (List.mem_of_getElem? found)) new

theorem nodup_targets {spots : List (Path × Node)} {labels : List (List Descriptor)}
    (paths : (spots.map Prod.fst).Nodup)
    (fields : ∀ bindings ∈ labels, (bindings.map Descriptor.field).Nodup) :
    ((List.zipWith partsAt spots labels).flatten.map Part.target).Nodup := by
  rw [List.Nodup, List.pairwise_map]
  exact pairwise_targets (fun _ _ => False) paths fun bindings member =>
    List.pairwise_map.mp (fields bindings member)

/-- In an instance of a compiled template two parts have one target only if one is a flag and the
other an attribute with a value. -/
theorem collides_of_target_eq {config : Config} {source : Node} {made : Template.Compiled}
    (outcome : Template.Outcome config source made) (keyed : source.AllAttributes Attributes.Keyed)
    {place other : Nat} {p q : Part}
    (part : (ofLabels made.template.content (Compile.labels config source)).parts[place]? = some p)
    (foreign : (ofLabels made.template.content
      (Compile.labels config source)).parts[other]? = some q)
    (apart : other ≠ place) (same : p.target = q.target) : p.descriptor.Collides q.descriptor := by
  have fields : ∀ bindings ∈ Compile.labels config source, bindings.Pairwise fun d e =>
      d.field = e.field → d.Collides e := by
    intro bindings member
    obtain ⟨index, label⟩ := List.mem_iff_getElem?.mp member
    obtain ⟨n, -, labelled⟩ := outcome.labelled_at keyed label
    exact labelled.pairwise
  have pairwise := pairwise_targets Descriptor.Collides
    (Node.nodup_paths made.template.content) fields
  obtain ⟨inside, rfl⟩ := List.getElem?_eq_some_iff.mp part
  obtain ⟨within, rfl⟩ := List.getElem?_eq_some_iff.mp foreign
  rcases Nat.lt_or_gt_of_ne apart with before | behind
  · exact (List.pairwise_iff_getElem.mp pairwise _ _ within inside before same.symm).symm
  · exact List.pairwise_iff_getElem.mp pairwise _ _ inside within behind same

/-- A fresh instance shows what was compiled. -/
theorem overlays_fresh {config : Config} {source : Node} {made : Template.Compiled}
    (outcome : Template.Outcome config source made)
    (distinct : source.AllAttributes fun a => a.Keyed ∧ a.Apart config) :
    (ofLabels made.template.content (Compile.labels config source)).Overlays
      made.template.content := by
  refine ⟨rfl, ?_, ?_, ?_, ?_, fun _ _ _ => rfl⟩
  · intro p member
    obtain ⟨n, bindings, found, fresh, -⟩ := part_at outcome distinct member
    have type : p.nodeType = n.type := congrArg Part.nodeType fresh
    rw [type]
    exact congrArg (Option.map Node.type) found
  · refine nodup_targets (Node.nodup_paths _) ?_
    intro bindings member
    obtain ⟨index, label⟩ := List.mem_iff_getElem?.mp member
    obtain ⟨n, -, labelled⟩ := outcome.labelled_at distinct label
    exact labelled.nodup_fields
  · intro p member kind
    obtain ⟨n, bindings, found, -, bound, labelled⟩ := part_at outcome distinct member
    have vacant := labelled.vacant bound
    rw [Descriptor.VacantAt, kind] at vacant
    rw [Node.heldAt, found]
    exact vacant.2
  · intro p member
    obtain ⟨n, bindings, -, fresh, -⟩ := part_at outcome distinct member
    rw [Part.holds, fresh]
    rfl

end Instance
end LiveTemplate
