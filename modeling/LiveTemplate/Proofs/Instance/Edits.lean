import LiveTemplate.Proofs.Instance.History
import LiveTemplate.Proofs.Instance.Overlay

/-! The edits of a run with the parts that made them. They make the tree, each changes only the
field of its part, and a part that has got a value made an edit with it, its last one. -/
namespace LiveTemplate

theorem dated_cons {α : Type} (start : Nat) (entry : Option α) (rest : List (Option α)) :
    dated start (entry :: rest) = entry.toList.map (Prod.mk start) ++ dated (start + 1) rest := by
  cases entry <;> rfl

theorem mem_dated {α : Type} {entries : List (Option α)} {start place : Nat} {a : α} :
    (place, a) ∈ dated start entries ↔ ∃ k, place = start + k ∧ entries[k]? = some (some a) := by
  induction entries generalizing start with
  | nil => simp [dated]
  | cons entry entries ih =>
    have shift : (∃ k, place = start + 1 + k ∧ entries[k]? = some (some a)) ↔
        ∃ k, place = start + (k + 1) ∧ (entry :: entries)[k + 1]? = some (some a) := by
      simp [Nat.add_right_comm, Nat.add_assoc]
    cases entry with
    | none =>
      rw [dated, ih, shift]
      constructor
      · rintro ⟨k, found⟩
        exact ⟨k + 1, found⟩
      · rintro ⟨_ | k, same, found⟩
        · cases found
        · exact ⟨k, same, found⟩
    | some b =>
      rw [dated, List.mem_cons, ih, shift]
      constructor
      · rintro (here | ⟨k, found⟩)
        · cases here
          exact ⟨0, rfl, rfl⟩
        · exact ⟨k + 1, found⟩
      · rintro ⟨_ | k, same, found⟩
        · cases same
          cases found
          exact .inl rfl
        · exact .inr ⟨k, same, found⟩

/-- What stands at a place is all that is dated with it. -/
theorem dated_split {α : Type} (start : Nat) {entries : List (Option α)} {k : Nat}
    {entry : Option α} (found : entries[k]? = some entry) : ∃ before behind,
      dated start entries = before ++ (entry.toList.map (Prod.mk (start + k)) ++ behind) ∧
      (∀ e ∈ before, e.1 ≠ start + k) ∧ ∀ e ∈ behind, e.1 ≠ start + k := by
  induction entries generalizing start k with
  | nil => cases found
  | cons first rest ih =>
    rw [dated_cons]
    cases k with
    | zero =>
      cases found
      refine ⟨[], dated (start + 1) rest, rfl, by simp, ?_⟩
      rintro ⟨place, a⟩ member
      obtain ⟨k, rfl, -⟩ := mem_dated.mp member
      dsimp only
      omega
    | succ k =>
      obtain ⟨before, behind, split, apartBefore, apartBehind⟩ := ih (start + 1) found
      rw [show start + (k + 1) = start + 1 + k by omega]
      refine ⟨first.toList.map (Prod.mk start) ++ before, behind, ?_, ?_, apartBehind⟩
      · rw [split, List.append_assoc]
      · intro e member
        rcases List.mem_append.mp member with here | there
        · obtain ⟨a, -, rfl⟩ := List.mem_map.mp here
          dsimp only
          omega
        · exact apartBefore e there

namespace Instance

/-- The fields of the parts, part after part. -/
def targets (i : Instance) : List (Path × Field) := i.parts.map Part.target

theorem target_at {i : Instance} {place : Nat} {p : Part} (part : i.parts[place]? = some p) :
    i.targets[place]? = some p.target := by
  rw [targets, List.getElem?_map, part, Option.map_some]

/-- No other part has the field of the part in this place. -/
def Undisputed (i : Instance) (place : Nat) : Prop :=
  ∀ other, other ≠ place → i.targets[other]? ≠ i.targets[place]?

/-- The edits of one update, each with the place of the part that made it. -/
def editsOf (reactions : List Reaction) : List (Nat × Edit) :=
  dated 0 (reactions.map Reaction.edit?)

/-- The edits with the nodes of their parts. -/
def located (targets : List (Path × Field)) (edits : List (Nat × Edit)) : List (Path × Edit) :=
  edits.filterMap fun edit => targets[edit.1]?.map fun target => (target.1, edit.2)

theorem located_append (targets : List (Path × Field)) (first later : List (Nat × Edit)) :
    located targets (first ++ later) = located targets first ++ located targets later :=
  List.filterMap_append

theorem located_cons {targets : List (Path × Field)} {place : Nat} {target : Path × Field}
    (found : targets[place]? = some target) (e : Edit) (later : List (Nat × Edit)) :
    located targets ((place, e) :: later) = (target.1, e) :: located targets later := by
  simp [located, found]

theorem targets_partsAfter (parts : List Part) (reactions : List Reaction) :
    (partsAfter parts reactions).map Part.target = parts.map Part.target := by
  fun_induction partsAfter parts reactions <;> simp_all

theorem writesOf_eq_located (parts : List Part) (reactions : List Reaction) :
    writesOf parts reactions = located (parts.map Part.target) (editsOf reactions) := by
  -- The induction leaves out parts from the front, and their places with them.
  have offset (before rest : List Part) (reactions : List Reaction) :
      writesOf rest reactions = located ((before ++ rest).map Part.target)
        (dated before.length (reactions.map Reaction.edit?)) := by
    induction rest generalizing before reactions with
    | nil =>
      have outside : ∀ edit ∈ dated before.length (reactions.map Reaction.edit?),
          ((before ++ []).map Part.target)[edit.1]?.map
            (fun target => (target.1, edit.2)) = none := by
        rintro ⟨place, e⟩ member
        obtain ⟨k, rfl, -⟩ := mem_dated.mp member
        simp
      rw [located, List.filterMap_eq_nil_iff.mpr outside]
      rfl
    | cons p rest ih =>
      cases reactions with
      | nil => rfl
      | cons r later =>
        have behind := ih (before ++ [p]) later
        rw [List.append_assoc, List.length_append] at behind
        have here : ((before ++ p :: rest).map Part.target)[before.length]? = some p.target := by
          simp
        have split : writesOf (p :: rest) (r :: later) =
            r.edit?.toList.map (Prod.mk p.path) ++ writesOf rest later := rfl
        rw [split, behind]
        rw [List.map_cons, dated_cons]
        cases r.edit? with
        | none => rfl
        | some e => exact (located_cons here e _).symm
  exact offset [] parts reactions

section Run

variable {σ : Type} {host : Host σ} {patch : Patch} {patches : List Patch} {i : Instance} {s : σ}
  {place : Nat} {p : Part}

@[simp] theorem targets_update : (i.update host patch s).updated.targets = i.targets := by
  rw [update_eq]
  exact targets_partsAfter i.parts _

/-- The edits of a run in their order, each with the place of the part that made it. -/
def edits (host : Host σ) (patches : List Patch) (i : Instance) (s : σ) : List (Nat × Edit) :=
  ((history host patches i s).map editsOf).flatten

theorem edits_of_failed {error : Error} (failed : (i.update host patch s).error = some error)
    (rest : List Patch) :
    edits host (patch :: rest) i s = editsOf (reactions host patch i.parts s).1 := by
  simp [edits, history_of_failed host failed]

theorem edits_of_passed (passed : (i.update host patch s).error = none) (rest : List Patch) :
    edits host (patch :: rest) i s = editsOf (reactions host patch i.parts s).1 ++
      edits host rest (i.update host patch s).updated (i.update host patch s).state := by
  simp [edits, history_of_passed host passed]

theorem content_update : (i.update host patch s).updated.content =
    i.content.editAll (located i.targets (editsOf (reactions host patch i.parts s).1)) := by
  rw [update_eq, writesOf_eq_located]
  rfl

/-- The tree after a run is the one before it with the edits of the run. -/
theorem content_updateAll (patches : List Patch) (i : Instance) (s : σ) :
    (updateAll host patches i s).updated.content =
      i.content.editAll (located i.targets (edits host patches i s)) := by
  induction patches generalizing i s with
  | nil => rfl
  | cons patch rest ih =>
    cases outcome : (i.update host patch s).error with
    | some error => rw [updateAll_of_failed host outcome, edits_of_failed outcome, content_update]
    | none =>
      rw [updateAll_of_passed host outcome, edits_of_passed outcome, located_append,
        Node.editAll_append, ← content_update]
      exact (ih _ _).trans (by rw [targets_update])

/-- Whatever reacts is a part in its place. -/
theorem part_of_reaction {parts : List Part} {s : σ} {r : Reaction}
    (found : (reactions host patch parts s).1[place]? = some r) :
    ∃ p t, parts[place]? = some p ∧ r = (p.react host patch t).1 := by
  induction parts generalizing s place with
  | nil => cases found
  | cons p rest ih =>
    cases outcome : (p.react host patch s).1.error? with
    | some error =>
      rw [reactions_of_failed host patch outcome] at found
      cases place with
      | zero => cases found; exact ⟨p, s, rfl, rfl⟩
      | succ place => cases found
    | none =>
      rw [reactions_of_passed host patch outcome] at found
      cases place with
      | zero => cases found; exact ⟨p, s, rfl, rfl⟩
      | succ place => exact ih found

/-- An edit with which a part in its place has applied a value. -/
def Applies (host : Host σ) (p : Part) (applied : Applied) : Prop :=
  (∃ v, v ≠ .unset ∧ p.descriptor.cast host.shelf v = .ok applied) ∧
    applied.edit.fits p.nodeType = true

theorem Applies.field {applied : Applied} (applies : Applies host p applied) :
    applied.edit.field = p.descriptor.field := by
  obtain ⟨⟨v, -, cast⟩, -⟩ := applies
  exact Descriptor.field_of_cast cast

theorem Applies.after {applied : Applied} (r : Reaction) :
    Applies host (p.after r) applied ↔ Applies host p applied := by
  simp [Applies]

theorem applies_of_edit {t : σ} {e : Edit} (made : (p.react host patch t).1.edit? = some e) :
    ∃ applied, (∃ taken, (p.react host patch t).1 = .wrote taken applied) ∧
      applied.edit = e ∧ Applies host p applied := by
  cases reaction : (p.react host patch t).1 with
  | wrote taken applied =>
    rw [reaction] at made
    obtain ⟨v, given, cast, fits⟩ := Part.wrote_cases reaction
    exact ⟨applied, ⟨taken, rfl⟩, Option.some.inj made, ⟨v, given, cast⟩, fits⟩
  | idle | withheld | settled | refused | failed => rw [reaction] at made; cases made

theorem mem_editsOf {e : Edit} (member : (place, e) ∈ editsOf (reactions host patch i.parts s).1) :
    ∃ p applied, i.parts[place]? = some p ∧ applied.edit = e ∧ Applies host p applied := by
  obtain ⟨k, rfl, found⟩ := mem_dated.mp member
  rw [List.getElem?_map, Option.map_eq_some_iff] at found
  obtain ⟨r, reaction, made⟩ := found
  obtain ⟨p, t, part, rfl⟩ := part_of_reaction reaction
  obtain ⟨applied, -, same, applies⟩ := applies_of_edit made
  exact ⟨p, applied, by rwa [Nat.zero_add], same, applies⟩

/-- The last edit of a part: it applies the part's value, and no later one is the part's. -/
structure LastEdit (host : Host σ) (edits : List (Nat × Edit)) (place : Nat) (p : Part)
    (value : Value) (earlier later : List (Nat × Edit)) (applied : Applied) : Prop where
  value_eq : value = applied.value
  applies : Applies host p applied
  split : edits = earlier ++ (place, applied.edit) :: later
  last : ∀ edit ∈ later, edit.1 ≠ place

/-- How edits tell the value of a part that was `p` before them: it is as it was if none of them is
the part's, and otherwise its last one applies it. -/
def Tells (host : Host σ) (edits : List (Nat × Edit)) (place : Nat) (p : Part) (value : Value) :
    Prop :=
  (value = p.value ∧ ∀ edit ∈ edits, edit.1 ≠ place) ∨
    ∃ earlier later applied, LastEdit host edits place p value earlier later applied

theorem Tells.append {first later : List (Nat × Edit)} {q : Part} {value : Value}
    (before : Tells host first place p q.value) (behind : Tells host later place q value)
    (same : ∀ applied, Applies host q applied → Applies host p applied) :
    Tells host (first ++ later) place p value := by
  rcases behind with ⟨kept, quiet⟩ | ⟨earlier, rest, applied, ⟨made, applies, split, last⟩⟩
  · rcases before with ⟨still, silent⟩ | ⟨earlier, rest, applied, ⟨made, applies, split, last⟩⟩
    · exact .inl ⟨kept.trans still, List.forall_mem_append.mpr ⟨silent, quiet⟩⟩
    · refine .inr ⟨earlier, rest ++ later, applied, kept.trans made, applies, ?_,
        List.forall_mem_append.mpr ⟨last, quiet⟩⟩
      rw [split, List.append_assoc, List.cons_append]
  · refine .inr ⟨first ++ earlier, rest, applied, made, same applied applies, ?_, last⟩
    rw [split, List.append_assoc]

/-- The edits of one update tell what becomes of a part. -/
theorem tells_of_update (fine : (i.update host patch s).error = none)
    (part : i.parts[place]? = some p) :
    ∃ t, (i.update host patch s).updated.parts[place]? =
        some (p.after (p.react host patch t).1) ∧
      Tells host (editsOf (reactions host patch i.parts s).1) place p
        (p.after (p.react host patch t).1).value := by
  rw [update_eq] at fine ⊢
  obtain ⟨t, reaction, -⟩ := reaction_at host patch fine part
  refine ⟨t, getElem?_partsAfter part reaction, ?_⟩
  have entry : ((reactions host patch i.parts s).1.map Reaction.edit?)[place]? =
      some (p.react host patch t).1.edit? := by
    rw [List.getElem?_map, reaction]
    rfl
  obtain ⟨before, behind, whole, apartBefore, apartBehind⟩ := dated_split 0 entry
  rw [Nat.zero_add] at whole apartBefore apartBehind
  rw [← editsOf] at whole
  cases made : (p.react host patch t).1.edit? with
  | none =>
    rw [made] at whole
    refine .inl ⟨?_, whole ▸ List.forall_mem_append.mpr ⟨apartBefore, apartBehind⟩⟩
    cases r : (p.react host patch t).1 with
    | wrote taken applied => rw [r] at made; cases made
    | idle | withheld | settled | refused | failed => rfl
  | some e =>
    obtain ⟨applied, ⟨taken, wrote⟩, rfl, applies⟩ := applies_of_edit made
    rw [made] at whole
    exact .inr ⟨before, behind, applied, by rw [wrote]; rfl, applies, whole, apartBehind⟩

/-- Every edit of a run applies a value of the part that made it. -/
theorem mem_edits {e : Edit} (member : (place, e) ∈ edits host patches i s) :
    ∃ p applied, i.parts[place]? = some p ∧ applied.edit = e ∧ Applies host p applied := by
  induction patches generalizing i s with
  | nil => cases member
  | cons patch rest ih =>
    cases outcome : (i.update host patch s).error with
    | some error =>
      rw [edits_of_failed outcome] at member
      exact mem_editsOf member
    | none =>
      rw [edits_of_passed outcome, List.mem_append] at member
      rcases member with here | later
      · exact mem_editsOf here
      · obtain ⟨q, applied, part, same, applies⟩ := ih later
        obtain ⟨p, t, before, rfl, -⟩ := part_before host outcome part
        exact ⟨p, applied, before, same, (Applies.after _).mp applies⟩

/-- The edits of a run that nothing stops tell the values of its parts. -/
theorem tells_of_updateAll (fine : (updateAll host patches i s).error = none)
    (part : i.parts[place]? = some p) :
    ∃ q, (updateAll host patches i s).updated.parts[place]? = some q ∧
      q.descriptor = p.descriptor ∧ Tells host (edits host patches i s) place p q.value := by
  induction patches generalizing i s p with
  | nil => exact ⟨p, part, rfl, .inl ⟨rfl, by simp [edits, history]⟩⟩
  | cons patch rest ih =>
    obtain ⟨passed, later⟩ := passed_of_updateAll host fine
    obtain ⟨t, found, here⟩ := tells_of_update passed part
    rw [updateAll_of_passed host passed, edits_of_passed passed]
    obtain ⟨q, final, descriptor, behind⟩ := ih later found
    rw [Part.descriptor_after] at descriptor
    exact ⟨q, final, descriptor, here.append behind fun _ => (Applies.after _).mp⟩

/-- Edits of parts with other targets leave a field as it is. -/
theorem heldAt_of_apart {later : List (Nat × Edit)}
    (made : ∀ edit ∈ later, edit ∈ edits host patches i s) {target : Path × Field}
    (apart : ∀ edit ∈ later, i.targets[edit.1]? ≠ some target) (root : Node) :
    (root.editAll (located i.targets later)).heldAt target.1 target.2 =
      root.heldAt target.1 target.2 := by
  refine Node.heldAt_editAll_of_ne (fun w member => ?_) root
  obtain ⟨⟨other, e⟩, inside, found⟩ := List.mem_filterMap.mp member
  obtain ⟨q, applied, part, rfl, applies⟩ := mem_edits (made _ inside)
  rw [target_at part, Option.map_some, Option.some.injEq] at found
  subst found
  intro same
  rw [applies.field] at same
  exact apart _ inside ((target_at part).trans (congrArg some same))

/-- If nothing has touched its field since, the last edit of a part tells what it holds. -/
theorem LastEdit.heldAt {value : Value} {earlier later : List (Nat × Edit)} {applied : Applied}
    (edit : LastEdit host (edits host patches i s) place p value earlier later applied)
    (part : i.parts[place]? = some p)
    (stands : (i.content.at? p.path).map Node.type = some p.nodeType)
    (untouched : ∀ edit ∈ later, i.targets[edit.1]? ≠ some p.target) :
    (updateAll host patches i s).updated.content.heldAt p.path p.descriptor.field =
      applied.edit.leaves
        ((i.content.editAll (located i.targets earlier)).heldAt p.path p.descriptor.field) := by
  have behind : ∀ e ∈ later, e ∈ edits host patches i s := by
    intro e member
    rw [edit.split]
    simp [member]
  rw [content_updateAll, edit.split, located_append, located_cons (target_at part),
    Node.editAll_append]
  refine (heldAt_of_apart behind untouched _).trans ?_
  rw [← Node.type_at?_editAll (located i.targets earlier)] at stands
  obtain ⟨n, found, type⟩ := Option.map_eq_some_iff.mp stands
  have fits := edit.applies.2
  rw [← type] at fits
  exact (Node.heldAt_editAt found fits _ _).trans (if_pos ⟨rfl, edit.applies.field.symm⟩)

/-- In an undisputed field nothing but the part itself makes edits. -/
theorem untouched_of_undisputed (undisputed : i.Undisputed place)
    (part : i.parts[place]? = some p) {later : List (Nat × Edit)}
    (last : ∀ edit ∈ later, edit.1 ≠ place) :
    ∀ edit ∈ later, i.targets[edit.1]? ≠ some p.target := by
  intro edit member same
  exact undisputed edit.1 (last edit member) (same.trans (target_at part).symm)

end Run

/-- A part of a fresh instance is at a node of its type. -/
theorem stands_of_ofTemplate {t : Template} {i : Instance} (made : ofTemplate t = .ok i) {p : Part}
    (member : p ∈ i.parts) : (i.content.at? p.path).map Node.type = some p.nodeType := by
  have bound (table : BindingTable) (index : Nat) {root : Node} (spots : List (Path × Node))
      (led : ∀ spot ∈ spots, root.at? spot.1 = some spot.2) :
      ∀ p ∈ Instance.bind table index spots,
        (root.at? p.path).map Node.type = some p.nodeType := by
    induction spots generalizing index with
    | nil => simp [Instance.bind]
    | cons spot spots ih =>
      obtain ⟨here, others⟩ := List.forall_mem_cons.mp led
      refine List.forall_mem_append.mpr ⟨?_, ih (index + 1) others⟩
      intro p member
      obtain ⟨d, -, rfl⟩ := List.mem_map.mp member
      exact congrArg (Option.map Node.type) here
  unfold ofTemplate at made
  cases copied : t.content.clone with
  | error error => rw [copied] at made; cases made
  | ok content =>
    rw [copied] at made
    cases made
    exact bound _ _ _ (fun spot inside => Node.at?_of_mem_spots inside) p member

end Instance
end LiveTemplate
