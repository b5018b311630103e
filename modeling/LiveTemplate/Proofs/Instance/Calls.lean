import LiveTemplate.Proofs.Instance.Reactions
import LiveTemplate.Proofs.Part.Calls

/-! The calls of a run, told by the turns in which the parts react. To put them on record disturbs
nothing. -/
namespace LiveTemplate.Instance

section Calls

variable {σ : Type} (host : Host σ)

/-- The calls of each part in an update, up to the first part that fails. -/
def callsOf (patch : Patch) (parts : List Part) (s : σ) : List (List Call) :=
  List.zipWith (fun p t => p.calls host patch t) parts (turns host patch parts s)

theorem callsOf_of_failed {patch : Patch} {p : Part} {s : σ} {error : Error}
    (failed : (p.react host patch s).1.error? = some error) (rest : List Part) :
    callsOf host patch (p :: rest) s = [p.calls host patch s] := by
  simp [callsOf, turns_of_failed host patch failed]

theorem callsOf_of_passed {patch : Patch} {p : Part} {s : σ}
    (passed : (p.react host patch s).1.error? = none) (rest : List Part) :
    callsOf host patch (p :: rest) s =
      p.calls host patch s :: callsOf host patch rest (p.react host patch s).2 := by
  simp [callsOf, turns_of_passed host patch passed]

/-- The calls of each update of a run, which an update that fails ends. -/
def callHistory : List Patch → Instance → σ → List (List (List Call))
  | [], _, _ => []
  | patch :: rest, i, s =>
    callsOf host patch i.parts s :: match (i.update host patch s).error with
      | some _ => []
      | none => callHistory rest (i.update host patch s).updated (i.update host patch s).state

/-- The calls that the part in a place has made. -/
def callsAt (place : Nat) (history : List (List (List Call))) : List Call :=
  (history.filterMap (·[place]?)).flatten

theorem callsAt_cons {place : Nat} {calls : List (List Call)} {made : List Call}
    (found : calls[place]? = some made) (later : List (List (List Call))) :
    callsAt place (calls :: later) = made ++ callsAt place later := by
  simp [callsAt, found]

variable {patch : Patch} {i : Instance} {s : σ}

theorem callHistory_of_failed {error : Error}
    (failed : (i.update host patch s).error = some error) (rest : List Patch) :
    callHistory host (patch :: rest) i s = [callsOf host patch i.parts s] := by
  simp [callHistory, failed]

theorem callHistory_of_passed (passed : (i.update host patch s).error = none)
    (rest : List Patch) :
    callHistory host (patch :: rest) i s = callsOf host patch i.parts s ::
      callHistory host rest (i.update host patch s).updated (i.update host patch s).state := by
  simp [callHistory, passed]

theorem reactions_recording (patch : Patch) (parts : List Part) (s : σ) (record : List Call) :
    reactions host.recording patch parts (s, record) =
      ((reactions host patch parts s).1, (reactions host patch parts s).2,
        record ++ (callsOf host patch parts s).flatten) := by
  induction parts generalizing s record with
  | nil => simp [reactions, callsOf]
  | cons p rest ih =>
    have react := Part.react_recording host patch p s record
    cases outcome : (p.react host patch s).1.error? with
    | some error =>
      have failed : (p.react host.recording patch (s, record)).1.error? = some error := by
        rw [react]; exact outcome
      rw [reactions_of_failed _ _ failed, reactions_of_failed _ _ outcome, react,
        callsOf_of_failed host outcome]
      simp
    | none =>
      have passed : (p.react host.recording patch (s, record)).1.error? = none := by
        rw [react]; exact outcome
      rw [reactions_of_passed _ _ passed, reactions_of_passed _ _ outcome, react,
        callsOf_of_passed host outcome]
      dsimp only
      rw [ih]
      simp

/-- An update with the calls on record is the update, and puts the calls of its parts on record. -/
theorem update_recording (patch : Patch) (i : Instance) (s : σ) (record : List Call) :
    i.update host.recording patch (s, record) =
      ⟨(i.update host patch s).updated, (i.update host patch s).events,
        (i.update host patch s).error, (i.update host patch s).state,
        record ++ (callsOf host patch i.parts s).flatten⟩ := by
  rw [update_eq, update_eq, reactions_recording]

/-- Recording the calls of a run disturbs nothing. What is on record in the end are the calls of its
parts, update after update and part after part. -/
theorem updateAll_recording (patches : List Patch) (i : Instance) (s : σ) (record : List Call) :
    updateAll host.recording patches i (s, record) =
      ⟨(updateAll host patches i s).updated, (updateAll host patches i s).events,
        (updateAll host patches i s).error, (updateAll host patches i s).state,
        record ++ ((callHistory host patches i s).map List.flatten).flatten⟩ := by
  induction patches generalizing i s record with
  | nil => simp [updateAll, callHistory]
  | cons patch rest ih =>
    have first := update_recording host patch i s record
    cases outcome : (i.update host patch s).error with
    | some error =>
      have failed : (i.update host.recording patch (s, record)).error = some error := by
        rw [first]; exact outcome
      rw [updateAll_of_failed _ failed, updateAll_of_failed _ outcome,
        callHistory_of_failed host outcome, first]
      simp
    | none =>
      have passed : (i.update host.recording patch (s, record)).error = none := by
        rw [first]; exact outcome
      rw [updateAll_of_passed _ passed, updateAll_of_passed _ outcome,
        callHistory_of_passed host outcome, first]
      dsimp only
      rw [ih]
      simp

end Calls

end LiveTemplate.Instance
