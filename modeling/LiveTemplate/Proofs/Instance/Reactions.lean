import LiveTemplate.Proofs.Node.Edit
import LiveTemplate.Proofs.Part.Effect
import LiveTemplate.Template.Instance

/-! Updates told by the reactions of the parts. What an update makes of the tree and the parts, what
events it has and what stops it are all read off the reactions in their order. -/
namespace LiveTemplate.Instance

/-- The parts after their reactions; parts that were not reached stay as they are. -/
def partsAfter : List Part → List Reaction → List Part
  | p :: rest, r :: later => p.after r :: partsAfter rest later
  | parts, [] => parts
  | [], _ => []

/-- The events of reactions, part after part. -/
def eventsOf (parts : List Part) (reactions : List Reaction) : List Event :=
  (List.zipWith reactionEvents parts reactions).flatten

/-- The edits of reactions with the paths of their parts. -/
def writesOf (parts : List Part) (reactions : List Reaction) : List (Path × Edit) :=
  (List.zipWith (fun p r => r.edit?.toList.map (Prod.mk p.path)) parts reactions).flatten

@[simp] theorem length_partsAfter (parts : List Part) (reactions : List Reaction) :
    (partsAfter parts reactions).length = parts.length := by
  fun_induction partsAfter parts reactions <;> simp_all

theorem getElem?_partsAfter {parts : List Part} {reactions : List Reaction} {j : Nat} {p : Part}
    {r : Reaction} (part : parts[j]? = some p) (reaction : reactions[j]? = some r) :
    (partsAfter parts reactions)[j]? = some (p.after r) := by
  induction parts generalizing reactions j with
  | nil => cases part
  | cons first rest ih =>
    cases reactions with
    | nil => cases reaction
    | cons r' later =>
      cases j with
      | zero => cases part; cases reaction; rfl
      | succ j => exact ih part reaction

/-- A part that was not reached stays as it is. -/
theorem getElem?_partsAfter_of_unreached {parts : List Part} {reactions : List Reaction} {j : Nat}
    (unreached : reactions[j]? = none) : (partsAfter parts reactions)[j]? = parts[j]? := by
  induction parts generalizing reactions j with
  | nil => cases reactions <;> rfl
  | cons first rest ih =>
    cases reactions with
    | nil => rfl
    | cons r later =>
      cases j with
      | zero => cases unreached
      | succ j => exact ih unreached

/-- Events and edits show of a part only what reactions leave alone. -/
theorem eventsOf_partsAfter (parts : List Part) (earlier reactions : List Reaction) :
    eventsOf (partsAfter parts earlier) reactions = eventsOf parts reactions := by
  have same (p : Part) (e r : Reaction) : reactionEvents (p.after e) r = reactionEvents p r := by
    cases r <;> simp [reactionEvents]
  unfold eventsOf
  induction parts generalizing earlier reactions with
  | nil => cases earlier <;> rfl
  | cons p rest ih =>
    cases earlier with
    | nil => rfl
    | cons e earlier =>
      cases reactions with
      | nil => simp
      | cons r reactions => simp [partsAfter, same, ih]

section Update

variable {σ : Type} (host : Host σ) (patch : Patch)

/-- The reactions of the parts to a patch, one after the other, up to the first that fails. -/
def reactions : List Part → σ → List Reaction × σ
  | [], s => ([], s)
  | p :: rest, s =>
    let (r, s) := p.react host patch s
    match r.error? with
    | some _ => ([r], s)
    | none => let (later, s) := reactions rest s; (r :: later, s)

theorem reactions_of_failed {p : Part} {s : σ} {error : Error}
    (failed : (p.react host patch s).1.error? = some error) (rest : List Part) :
    reactions host patch (p :: rest) s =
      ([(p.react host patch s).1], (p.react host patch s).2) := by
  simp [reactions, failed]

theorem reactions_of_passed {p : Part} {s : σ} (passed : (p.react host patch s).1.error? = none)
    (rest : List Part) :
    reactions host patch (p :: rest) s =
      ((p.react host patch s).1 :: (reactions host patch rest (p.react host patch s).2).1,
        (reactions host patch rest (p.react host patch s).2).2) := by
  simp [reactions, passed]

theorem editAll_writes (p : Part) (r : Reaction) (content : Node) :
    content.editAll (r.edit?.toList.map (Prod.mk p.path)) = applyReaction p r content := by
  unfold applyReaction
  cases r.edit? <;> rfl

theorem updateParts_of_failed {p : Part} {s : σ} {error : Error}
    (failed : (p.react host patch s).1.error? = some error) (content : Node) (rest : List Part) :
    updateParts host patch content s (p :: rest) =
      ⟨⟨applyReaction p (p.react host patch s).1 content,
        p.after (p.react host patch s).1 :: rest⟩, reactionEvents p (p.react host patch s).1,
        some error, (p.react host patch s).2⟩ := by
  simp [updateParts, failed]

theorem updateParts_of_passed {p : Part} {s : σ}
    (passed : (p.react host patch s).1.error? = none) (content : Node) (rest : List Part) :
    updateParts host patch content s (p :: rest) =
      let later := updateParts host patch (applyReaction p (p.react host patch s).1 content)
        (p.react host patch s).2 rest
      ⟨⟨later.updated.content, p.after (p.react host patch s).1 :: later.updated.parts⟩,
        reactionEvents p (p.react host patch s).1 ++ later.events, later.error, later.state⟩ := by
  simp [updateParts, passed]

theorem updateParts_eq (content : Node) (s : σ) (parts : List Part) :
    updateParts host patch content s parts =
      ⟨⟨content.editAll (writesOf parts (reactions host patch parts s).1),
        partsAfter parts (reactions host patch parts s).1⟩,
        eventsOf parts (reactions host patch parts s).1,
        (reactions host patch parts s).1.findSome? Reaction.error?,
        (reactions host patch parts s).2⟩ := by
  induction parts generalizing content s with
  | nil => rfl
  | cons p rest ih =>
    cases outcome : (p.react host patch s).1.error? with
    | some error =>
      rw [reactions_of_failed host patch outcome]
      simp [updateParts_of_failed _ _ outcome, partsAfter, eventsOf, writesOf, editAll_writes,
        outcome]
    | none =>
      rw [reactions_of_passed host patch outcome]
      simp [updateParts_of_passed _ _ outcome, partsAfter, eventsOf, writesOf, editAll_writes, ih,
        Node.editAll_append, outcome]

/-- The states in which the parts react. -/
def turns : List Part → σ → List σ
  | [], _ => []
  | p :: rest, s => s :: match (p.react host patch s).1.error? with
    | some _ => []
    | none => turns rest (p.react host patch s).2

theorem turns_of_failed {p : Part} {s : σ} {error : Error}
    (failed : (p.react host patch s).1.error? = some error) (rest : List Part) :
    turns host patch (p :: rest) s = [s] := by
  simp [turns, failed]

theorem turns_of_passed {p : Part} {s : σ} (passed : (p.react host patch s).1.error? = none)
    (rest : List Part) :
    turns host patch (p :: rest) s = s :: turns host patch rest (p.react host patch s).2 := by
  simp [turns, passed]

/-- In an update that nothing stops, every part has its turn. -/
theorem turn_at {parts : List Part} {s : σ}
    (fine : (reactions host patch parts s).1.findSome? Reaction.error? = none) {j : Nat} {p : Part}
    (part : parts[j]? = some p) :
    ∃ t, (turns host patch parts s)[j]? = some t ∧
      (reactions host patch parts s).1[j]? = some (p.react host patch t).1 ∧
      (p.react host patch t).1.error? = none := by
  induction parts generalizing s j with
  | nil => cases part
  | cons first rest ih =>
    cases outcome : (first.react host patch s).1.error? with
    | some error =>
      rw [reactions_of_failed host patch outcome] at fine
      simp [outcome] at fine
    | none =>
      rw [reactions_of_passed host patch outcome] at fine ⊢
      rw [turns_of_passed host patch outcome]
      cases j with
      | zero => cases part; exact ⟨s, rfl, rfl, outcome⟩
      | succ j =>
        refine ih ?_ part
        simpa [outcome] using fine

/-- In an update that nothing stops, every part reacts. -/
theorem reaction_at {parts : List Part} {s : σ}
    (fine : (reactions host patch parts s).1.findSome? Reaction.error? = none) {j : Nat} {p : Part}
    (part : parts[j]? = some p) :
    ∃ t, (reactions host patch parts s).1[j]? = some (p.react host patch t).1 ∧
      (p.react host patch t).1.error? = none := by
  obtain ⟨t, -, reaction⟩ := turn_at host patch fine part
  exact ⟨t, reaction⟩

end Update

section Run

variable {σ : Type} (host : Host σ)

/-- The reactions of each update of a run, which an update that fails ends. -/
def history : List Patch → Instance → σ → List (List Reaction)
  | [], _, _ => []
  | patch :: rest, i, s =>
    let first := i.update host patch s
    let here := (reactions host patch i.parts s).1
    match first.error with
    | some _ => [here]
    | none => here :: history rest first.updated first.state

variable {patch : Patch} {i : Instance} {s : σ}

theorem update_eq : i.update host patch s =
    ⟨⟨i.content.editAll (writesOf i.parts (reactions host patch i.parts s).1),
      partsAfter i.parts (reactions host patch i.parts s).1⟩,
      eventsOf i.parts (reactions host patch i.parts s).1,
      (reactions host patch i.parts s).1.findSome? Reaction.error?,
      (reactions host patch i.parts s).2⟩ :=
  updateParts_eq host patch i.content s i.parts

/-- After an update that nothing stops, a part is what its reaction made of the one in its place. -/
theorem part_before (fine : (i.update host patch s).error = none) {place : Nat} {q : Part}
    (found : (i.update host patch s).updated.parts[place]? = some q) :
    ∃ p t, i.parts[place]? = some p ∧ q = p.after (p.react host patch t).1 ∧
      (p.react host patch t).1.error? = none := by
  rw [update_eq] at fine found
  have inside : place < i.parts.length := by
    have bound := (List.getElem?_eq_some_iff.mp found).1
    rwa [length_partsAfter] at bound
  have part := List.getElem?_eq_getElem inside
  obtain ⟨t, reaction, passed⟩ := reaction_at host patch fine part
  rw [getElem?_partsAfter part reaction] at found
  exact ⟨i.parts[place], t, part, (Option.some.inj found).symm, passed⟩

/-- In an update that nothing stops, every part has reacted without an error. -/
theorem mem_updated_parts (fine : (i.update host patch s).error = none) {q : Part}
    (member : q ∈ (i.update host patch s).updated.parts) :
    ∃ p ∈ i.parts, ∃ t, q = p.after (p.react host patch t).1 ∧
      (p.react host patch t).1.error? = none := by
  obtain ⟨place, found⟩ := List.mem_iff_getElem?.mp member
  obtain ⟨p, t, part, after, passed⟩ := part_before host fine found
  exact ⟨p, List.mem_of_getElem? part, t, after, passed⟩

theorem updateAll_of_failed {error : Error} (failed : (i.update host patch s).error = some error)
    (rest : List Patch) : updateAll host (patch :: rest) i s = i.update host patch s := by
  simp [updateAll, failed]

theorem updateAll_of_passed (passed : (i.update host patch s).error = none) (rest : List Patch) :
    updateAll host (patch :: rest) i s =
      { updateAll host rest (i.update host patch s).updated (i.update host patch s).state with
        events := (i.update host patch s).events ++
          (updateAll host rest (i.update host patch s).updated
            (i.update host patch s).state).events } := by
  simp [updateAll, passed]

/-- In a run that nothing stops, nothing stops the first update nor what comes after it. -/
theorem passed_of_updateAll {rest : List Patch}
    (fine : (updateAll host (patch :: rest) i s).error = none) :
    (i.update host patch s).error = none ∧
      (updateAll host rest (i.update host patch s).updated
        (i.update host patch s).state).error = none := by
  cases outcome : (i.update host patch s).error with
  | some error =>
    rw [updateAll_of_failed host outcome, outcome] at fine
    cases fine
  | none =>
    rw [updateAll_of_passed host outcome] at fine
    exact ⟨rfl, fine⟩

theorem history_of_failed {error : Error} (failed : (i.update host patch s).error = some error)
    (rest : List Patch) :
    history host (patch :: rest) i s = [(reactions host patch i.parts s).1] := by
  simp [history, failed]

theorem history_of_passed (passed : (i.update host patch s).error = none) (rest : List Patch) :
    history host (patch :: rest) i s = (reactions host patch i.parts s).1 ::
      history host rest (i.update host patch s).updated (i.update host patch s).state := by
  simp [history, passed]

/-- The events of a run are those of its reactions: update after update, and in each part after
part. -/
theorem events_updateAll (patches : List Patch) (i : Instance) (s : σ) :
    (updateAll host patches i s).events =
      ((history host patches i s).map (eventsOf i.parts)).flatten := by
  induction patches generalizing i s with
  | nil => rfl
  | cons patch rest ih =>
    have events : (i.update host patch s).events =
        eventsOf i.parts (reactions host patch i.parts s).1 := by rw [update_eq]
    have parts : eventsOf (i.update host patch s).updated.parts = eventsOf i.parts := by
      funext reactions
      rw [update_eq, eventsOf_partsAfter]
    cases outcome : (i.update host patch s).error with
    | some error =>
      rw [updateAll_of_failed host outcome, history_of_failed host outcome, events]
      simp
    | none =>
      rw [updateAll_of_passed host outcome, history_of_passed host outcome, List.map_cons,
        List.flatten_cons, ← events, ← parts, ← ih]

end Run

end LiveTemplate.Instance
