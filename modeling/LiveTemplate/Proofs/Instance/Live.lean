import LiveTemplate.Proofs.Instance.Calls
import LiveTemplate.Template.Live
import Mathlib.Data.Stream.Init

/-! Updates whose functions leave the instance alone. As long as they do, a part reacts as it does
in a plain update, to the answers that its function gives when its turn comes. So a live update is
a plain one with a host that plays these answers back, and what holds of the plain updates of any
host holds of it. -/
namespace LiveTemplate

/-- The answers that a host gives in given states, one call after the other. -/
def Host.playback {σ : Type} (host : Host (Live σ)) : Host (Stream' (Live σ)) where
  shelf := host.shelf
  call function arguments script := ((host.call function arguments script.head).1, script.tail)

section Answers

variable {σ : Type} {host : Host (Live σ)}

theorem Evaluator.current_value (quiet : host.Quiet) (e : Evaluator) (now : Live σ) :
    (e.value host now).2.current = now.current := by
  unfold value
  split
  · rfl
  · exact quiet _ _ _
  · rfl

/-- An evaluator calls once or not at all. -/
theorem Evaluator.exists_playback (host : Host (Live σ)) (e : Evaluator) (now : Live σ)
    (later : Stream' (Live σ)) : ∃ script,
      e.value host.playback script = ((e.value host now).1, later) ∧
        e.calls host.playback script = e.calls host now := by
  cases e with
  | lookup key last => exact ⟨later, rfl, rfl⟩
  | call source function parameters callee =>
    cases callee with
    | function name => exact ⟨later.cons now, rfl, rfl⟩
    | _ => exact ⟨later, rfl, rfl⟩

theorem Part.exists_playback (host : Host (Live σ)) (patch : Patch) (p : Part) (now : Live σ)
    (later : Stream' (Live σ)) : ∃ script,
      p.react host.playback patch script = ((p.react host patch now).1, later) ∧
        p.calls host.playback patch script = p.calls host patch now := by
  have shelf : host.playback.shelf = host.shelf := rfl
  cases moved : p.evaluator.changed host.shelf p.comparison patch with
  | false =>
    refine ⟨later, ?_, ?_⟩
    · rw [react_of_unchanged moved, react_of_unchanged (shelf ▸ moved)]
    · rw [calls_of_unchanged moved, calls_of_unchanged (shelf ▸ moved)]
  | true =>
    cases absorbed : p.evaluator.absorb patch with
    | error error =>
      refine ⟨later, ?_, ?_⟩
      · rw [react_of_rejected moved absorbed, react_of_rejected (shelf ▸ moved) absorbed]
      · rw [calls_of_rejected moved absorbed, calls_of_rejected (shelf ▸ moved) absorbed]
    | ok taken =>
      obtain ⟨script, value, calls⟩ := taken.exists_playback host now later
      refine ⟨script, ?_, ?_⟩
      · rw [react_of_absorbed moved absorbed, react_of_absorbed (shelf ▸ moved) absorbed, value,
          shelf]
      · rw [calls_of_taken moved absorbed, calls_of_taken (shelf ▸ moved) absorbed, calls]

end Answers

namespace Live

variable {σ : Type} {host : Host (Live σ)} {patch : Patch} {place : Nat} {p : Part} {now : Live σ}

/-- The state in which a part comes to its value. -/
def turn (host : Host (Live σ)) (patch : Patch) (place : Nat) (p : Part) (now : Live σ) : Live σ :=
  if p.evaluator.changed host.shelf p.comparison patch then
    match p.evaluator.absorb patch with
    | .ok taken => now.taking place p taken
    | .error _ => now.record .evaluated
  else now

/-- Settling does not look at what the evaluator was before. -/
theorem settle_taking {place : Nat} {taken : Evaluator} {later : Live σ}
    (part : now.current.parts[place]? = some p)
    (left : later.current = (now.taking place p taken).current) (shelf : Shelf) (raw : Value) :
    later.settle shelf place raw =
      { later with current := now.current }.follow place p (p.settle shelf taken raw) := by
  have inside : place < now.current.parts.length := (List.getElem?_eq_some_iff.mp part).1
  have found : later.current.parts[place]? = some { p with evaluator := taken } := by
    rw [left]
    simp [taking, record, inside]
  have settled : ({ p with evaluator := taken } : Part).settle shelf taken raw =
      p.settle shelf taken raw := rfl
  have after : ({ p with evaluator := taken } : Part).after (p.settle shelf taken raw) =
      p.after (p.settle shelf taken raw) := by
    unfold Part.settle Part.write
    repeat' split
    all_goals rfl
  have others : later.current.parts.set place (p.after (p.settle shelf taken raw)) =
      now.current.parts.set place (p.after (p.settle shelf taken raw)) := by
    rw [left]
    simp [taking, record]
  rw [settle, found]
  simp only [follow, settled, after, others]
  rw [left]
  rfl

theorem updatePlace_of_unchanged (part : now.current.parts[place]? = some p)
    (unmoved : p.evaluator.changed host.shelf p.comparison patch = false) :
    now.updatePlace host patch place = (none, now) := by
  simp [updatePlace, part, unmoved]

theorem updatePlace_of_rejected {error : Error} (part : now.current.parts[place]? = some p)
    (moved : p.evaluator.changed host.shelf p.comparison patch = true)
    (rejected : p.evaluator.absorb patch = .error error) :
    now.updatePlace host patch place = (some error, now.record .evaluated) := by
  simp [updatePlace, part, moved, rejected]

theorem updatePlace_of_absorbed {taken : Evaluator} (part : now.current.parts[place]? = some p)
    (moved : p.evaluator.changed host.shelf p.comparison patch = true)
    (absorbed : p.evaluator.absorb patch = .ok taken) :
    now.updatePlace host patch place = match taken.value host (now.taking place p taken) with
      | (.ok raw, later) => later.settle host.shelf place raw
      | (.error error, later) => (some error, later) := by
  rcases value : taken.value host (now.taking place p taken) with ⟨error | raw, later⟩ <;>
    simp [updatePlace, part, moved, absorbed, value]

/-- The turn of a part, if the functions leave the instance alone. -/
theorem updatePlace_of_quiet (quiet : host.Quiet) (patch : Patch)
    (part : now.current.parts[place]? = some p) :
    now.updatePlace host patch place =
      { (p.react host patch (now.turn host patch place p)).2 with current := now.current }.follow
        place p (p.react host patch (now.turn host patch place p)).1 := by
  have unchanged : now.current.parts.set place p = now.current.parts := by
    obtain ⟨inside, rfl⟩ := List.getElem?_eq_some_iff.mp part
    exact List.set_getElem_self inside
  cases moved : p.evaluator.changed host.shelf p.comparison patch with
  | false =>
    rw [updatePlace_of_unchanged part moved, Part.react_of_unchanged moved]
    simp [turn, moved, follow, editEvents, Instance.applyReaction, Reaction.edit?,
      Reaction.error?, Part.after, unchanged]
  | true =>
    cases absorbed : p.evaluator.absorb patch with
    | error error =>
      rw [updatePlace_of_rejected part moved absorbed, Part.react_of_rejected moved absorbed]
      simp [turn, moved, absorbed, follow, editEvents, Instance.applyReaction, Reaction.edit?,
        Reaction.error?, Part.after, record, unchanged]
    | ok taken =>
      have turn : now.turn host patch place p = now.taking place p taken := by
        simp [turn, moved, absorbed]
      have left := Evaluator.current_value quiet taken (now.taking place p taken)
      rw [updatePlace_of_absorbed part moved absorbed, Part.react_of_absorbed moved absorbed, turn]
      generalize taken.value host (now.taking place p taken) = outcome at left ⊢
      obtain ⟨error | raw, later⟩ := outcome
      · obtain ⟨current, events, rest⟩ := later
        subst left
        simp [follow, editEvents, Instance.applyReaction, Reaction.edit?, Reaction.error?,
          Part.after, taking, record]
      · exact settle_taking part left host.shelf raw

theorem updatePlaces_of_stopped {error : Error}
    (stopped : (now.updatePlace host patch place).1 = some error) (others : List Nat) :
    now.updatePlaces host patch (place :: others) = now.updatePlace host patch place := by
  unfold updatePlaces
  generalize now.updatePlace host patch place = outcome at stopped ⊢
  obtain ⟨error?, later⟩ := outcome
  cases stopped
  rfl

theorem updatePlaces_of_passed (passed : (now.updatePlace host patch place).1 = none)
    (others : List Nat) : now.updatePlaces host patch (place :: others) =
      (now.updatePlace host patch place).2.updatePlaces host patch others := by
  rw [updatePlaces]
  generalize now.updatePlace host patch place = outcome at passed ⊢
  obtain ⟨error?, later⟩ := outcome
  cases passed
  rfl

/-- The calls that the part in a place makes in its turn. -/
def calls (host : Host (Live σ)) (patch : Patch) (place : Nat) (now : Live σ) : List Call :=
  match now.current.parts[place]? with
  | some p => p.calls host patch (now.turn host patch place p)
  | none => []

/-- The calls of the parts in some places, up to the first part that fails. -/
def callsOf (host : Host (Live σ)) (patch : Patch) : List Nat → Live σ → List (List Call)
  | [], _ => []
  | place :: others, now => now.calls host patch place ::
    match now.updatePlace host patch place with
    | (some _, _) => []
    | (none, later) => callsOf host patch others later

theorem callsOf_of_stopped {error : Error}
    (stopped : (now.updatePlace host patch place).1 = some error) (others : List Nat) :
    now.callsOf host patch (place :: others) = [now.calls host patch place] := by
  rw [callsOf]
  generalize now.updatePlace host patch place = outcome at stopped ⊢
  obtain ⟨error?, later⟩ := outcome
  cases stopped
  rfl

theorem callsOf_of_passed (passed : (now.updatePlace host patch place).1 = none)
    (others : List Nat) : now.callsOf host patch (place :: others) =
      now.calls host patch place ::
        (now.updatePlace host patch place).2.callsOf host patch others := by
  rw [callsOf]
  generalize now.updatePlace host patch place = outcome at passed ⊢
  obtain ⟨error?, later⟩ := outcome
  cases passed
  rfl

/-- What the turn of a part does to the instance, and the calls in it. -/
theorem turn_of_quiet (quiet : host.Quiet) (patch : Patch) {front rest : List Part}
    (parts : now.current.parts = front ++ p :: rest) : ∃ t,
      (now.updatePlace host patch front.length).1 = (p.react host patch t).1.error? ∧
      (now.updatePlace host patch front.length).2.current =
        ⟨Instance.applyReaction p (p.react host patch t).1 now.current.content,
          front ++ p.after (p.react host patch t).1 :: rest⟩ ∧
      now.calls host patch front.length = p.calls host patch t := by
  have part : now.current.parts[front.length]? = some p := by simp [parts]
  refine ⟨now.turn host patch front.length p, ?_, ?_, by simp [calls, part]⟩ <;>
    rw [updatePlace_of_quiet quiet patch part] <;>
    simp [follow, parts]

/-- A plain update of the parts behind those in `front` ends as the live one does. -/
structure Replays {τ : Type} (front : List Part) (u : Update τ) (v : Option Error × Live σ) :
    Prop where
  error : u.error = v.1
  current : v.2.current = ⟨u.updated.content, front ++ u.updated.parts⟩

theorem exists_playback_places (quiet : host.Quiet) (patch : Patch) (later : Stream' (Live σ))
    {front rest : List Part} (parts : now.current.parts = front ++ rest) : ∃ script,
      Replays front (Instance.updateParts host.playback patch now.current.content script rest)
        (now.updatePlaces host patch (List.range' front.length rest.length)) ∧
      (Instance.updateParts host.playback patch now.current.content script rest).state = later ∧
      Instance.callsOf host.playback patch rest script =
        now.callsOf host patch (List.range' front.length rest.length) := by
  induction rest generalizing front now with
  | nil =>
    refine ⟨later, ⟨rfl, ?_⟩, rfl, rfl⟩
    obtain ⟨⟨content, _⟩, events, rest⟩ := now
    cases parts
    rfl
  | cons p rest ih =>
    obtain ⟨t, error, current, calls⟩ := turn_of_quiet quiet patch parts
    rw [List.length_cons, List.range'_succ]
    cases outcome : (p.react host patch t).1.error? with
    | some stop =>
      obtain ⟨script, react, made⟩ := p.exists_playback host patch t later
      have failed : (p.react host.playback patch script).1.error? = some stop := by
        rw [react, outcome]
      rw [outcome] at error
      refine ⟨script, ?_⟩
      rw [Instance.updateParts_of_failed _ _ failed, updatePlaces_of_stopped error,
        Instance.callsOf_of_failed _ failed, callsOf_of_stopped error, react, made, calls]
      exact ⟨⟨error.symm, current⟩, rfl, rfl⟩
    | none =>
      rw [outcome] at error
      have behind : (now.updatePlace host patch front.length).2.current.parts =
          (front ++ [p.after (p.react host patch t).1]) ++ rest := by simp [current]
      obtain ⟨script, ⟨stop, result⟩, state, others⟩ := ih behind
      have content := congrArg Instance.content current
      rw [List.length_append, List.length_singleton, content] at stop result
      rw [content] at state
      rw [List.length_append, List.length_singleton] at others
      obtain ⟨script, react, made⟩ := p.exists_playback host patch t script
      have passed : (p.react host.playback patch script).1.error? = none := by
        rw [react, outcome]
      refine ⟨script, ?_⟩
      rw [Instance.updateParts_of_passed _ _ passed, updatePlaces_of_passed error,
        Instance.callsOf_of_passed _ passed, callsOf_of_passed error, react, made, calls]
      exact ⟨⟨stop, by simpa using result⟩, state, by rw [others]⟩

theorem exists_playback_update (quiet : host.Quiet) (patch : Patch) (now : Live σ)
    (later : Stream' (Live σ)) : ∃ script,
      Replays [] (now.current.update host.playback patch script) (now.update host patch) ∧
      (now.current.update host.playback patch script).state = later ∧
      Instance.callsOf host.playback patch now.current.parts script =
        now.callsOf host patch (List.range now.current.parts.length) := by
  rw [update, List.range_eq_range']
  exact exists_playback_places quiet patch later rfl

section Run

variable (host)

/-- The calls of each update of a run, which an update that fails ends. -/
def callHistory : List Patch → Live σ → List (List (List Call))
  | [], _ => []
  | patch :: others, now => now.callsOf host patch (List.range now.current.parts.length) ::
    match now.update host patch with
    | (some _, _) => []
    | (none, later) => callHistory others later

variable {host}

theorem run_of_stopped {error : Error} (stopped : (now.update host patch).1 = some error)
    (others : List Patch) :
    now.updateAll host (patch :: others) = now.update host patch ∧
      now.callHistory host (patch :: others) =
        [now.callsOf host patch (List.range now.current.parts.length)] := by
  rw [updateAll, callHistory]
  generalize now.update host patch = outcome at stopped ⊢
  obtain ⟨error?, later⟩ := outcome
  cases stopped
  exact ⟨rfl, rfl⟩

theorem run_of_passed (passed : (now.update host patch).1 = none) (others : List Patch) :
    now.updateAll host (patch :: others) = (now.update host patch).2.updateAll host others ∧
      now.callHistory host (patch :: others) =
        now.callsOf host patch (List.range now.current.parts.length) ::
          (now.update host patch).2.callHistory host others := by
  rw [updateAll, callHistory]
  generalize now.update host patch = outcome at passed ⊢
  obtain ⟨error?, later⟩ := outcome
  cases passed
  exact ⟨rfl, rfl⟩

/-- A run whose functions leave the instance alone ends as a plain run with a host that plays the
answers of the functions back, and the calls are the same. -/
theorem exists_playback (quiet : host.Quiet) (patches : List Patch) (now : Live σ) : ∃ script,
    Replays [] (Instance.updateAll host.playback patches now.current script)
      (now.updateAll host patches) ∧
    Instance.callHistory host.playback patches now.current script =
      now.callHistory host patches := by
  induction patches generalizing now with
  | nil => exact ⟨Stream'.const now, ⟨rfl, rfl⟩, rfl⟩
  | cons patch others ih =>
    obtain ⟨later, ⟨error, current⟩, history⟩ := ih (now.update host patch).2
    obtain ⟨script, ⟨stop, updated⟩, state, calls⟩ :=
      exists_playback_update quiet patch now later
    refine ⟨script, ?_⟩
    cases outcome : (now.update host patch).1 with
    | some error =>
      have stopped := stop.trans outcome
      rw [Instance.updateAll_of_failed _ stopped, Instance.callHistory_of_failed _ stopped,
        (run_of_stopped outcome others).1, (run_of_stopped outcome others).2, calls]
      exact ⟨⟨stop, updated⟩, rfl⟩
    | none =>
      have passed := stop.trans outcome
      rw [Instance.updateAll_of_passed _ passed, Instance.callHistory_of_passed _ passed,
        (run_of_passed outcome others).1, (run_of_passed outcome others).2, calls, state]
      rw [updated] at error current history
      exact ⟨⟨error, current⟩, by rw [← history]; rfl⟩

end Run

section Apart

theorem react_apart (plain : Host σ) (patch : Patch) (p : Part) (now : Live σ) :
    p.react plain.apart patch now =
      ((p.react plain patch now.rest).1,
        { now with rest := (p.react plain patch now.rest).2 }) := by
  have shelf : plain.apart.shelf = plain.shelf := rfl
  cases moved : p.evaluator.changed plain.shelf p.comparison patch with
  | false => rw [Part.react_of_unchanged moved, Part.react_of_unchanged (shelf ▸ moved)]
  | true =>
    cases absorbed : p.evaluator.absorb patch with
    | error error =>
      rw [Part.react_of_rejected moved absorbed, Part.react_of_rejected (shelf ▸ moved) absorbed]
    | ok taken =>
      have value : taken.value plain.apart now =
          ((taken.value plain now.rest).1,
            { now with rest := (taken.value plain now.rest).2 }) := by
        unfold Evaluator.value
        split <;> rfl
      rw [Part.react_of_absorbed moved absorbed, Part.react_of_absorbed (shelf ▸ moved) absorbed,
        value, shelf]

theorem events_of_turn (host : Host (Live σ)) (patch : Patch) (place : Nat) (p : Part)
    (now t : Live σ) :
    (now.turn host patch place p).events ++ editEvents p (p.react host patch t).1 =
      now.events ++ Instance.reactionEvents p (p.react host patch t).1 := by
  cases moved : p.evaluator.changed host.shelf p.comparison patch with
  | false =>
    rw [Part.react_of_unchanged moved]
    simp [turn, moved, editEvents, Instance.reactionEvents]
  | true =>
    have evaluated : (now.turn host patch place p).events = now.events ++ [.evaluated] := by
      simp only [turn, moved, if_true]
      split <;> rfl
    have reacts : (p.react host patch t).1 ≠ .idle := Part.react_ne_idle moved t
    rw [evaluated]
    cases reaction : (p.react host patch t).1 with
    | idle => exact absurd reaction reacts
    | _ => simp [editEvents, Instance.reactionEvents]

theorem updatePlaces_apart (plain : Host σ) (patch : Patch) {front rest : List Part}
    (parts : now.current.parts = front ++ rest) :
    now.updatePlaces plain.apart patch (List.range' front.length rest.length) =
      let u := Instance.updateParts plain patch now.current.content now.rest rest
      (u.error, ⟨⟨u.updated.content, front ++ u.updated.parts⟩, now.events ++ u.events,
        u.state⟩) := by
  induction rest generalizing front now with
  | nil =>
    obtain ⟨⟨content, _⟩, events, rest⟩ := now
    cases parts
    simp [updatePlaces, Instance.updateParts]
  | cons p rest ih =>
    have part : now.current.parts[front.length]? = some p := by simp [parts]
    have state : (now.turn plain.apart patch front.length p).rest = now.rest := by
      unfold turn
      repeat' split
      all_goals rfl
    have events := events_of_turn plain.apart patch front.length p now
      (now.turn plain.apart patch front.length p)
    have step := updatePlace_of_quiet plain.quiet_apart patch part
    rw [react_apart, state] at step events
    simp only [follow, events] at step
    rw [List.length_cons, List.range'_succ]
    cases outcome : (p.react plain patch now.rest).1.error? with
    | some error =>
      rw [outcome] at step
      rw [updatePlaces_of_stopped (by rw [step]), Instance.updateParts_of_failed _ _ outcome, step]
      simp [parts]
    | none =>
      rw [outcome] at step
      have behind : (now.updatePlace plain.apart patch front.length).2.current.parts =
          (front ++ [p.after (p.react plain patch now.rest).1]) ++ rest := by simp [step, parts]
      have later := ih behind
      rw [List.length_append, List.length_singleton] at later
      rw [updatePlaces_of_passed (by rw [step]), Instance.updateParts_of_passed _ _ outcome, later,
        step]
      simp

/-- For functions that know nothing of the instance, a live update is the plain one. -/
theorem update_apart (plain : Host σ) (patch : Patch) (now : Live σ) :
    now.update plain.apart patch =
      let u := now.current.update plain patch now.rest
      (u.error, ⟨u.updated, now.events ++ u.events, u.state⟩) := by
  rw [update, List.range_eq_range']
  have whole : now.current.parts = [] ++ now.current.parts := rfl
  exact updatePlaces_apart plain patch whole

end Apart

end Live

/-- A function that updates the instance with a patch before it returns its first argument. Such
calls can be nested so many deep. -/
def Host.nudging (patch : Patch) : (depth : Nat) → Host (Live Unit)
  | 0 => ⟨#[], fun _ _ now => (.error (.host (.recursion "maximum recursion depth exceeded")), now)⟩
  | depth + 1 => ⟨#[], fun _ arguments now =>
    match now.update (nudging patch depth) patch with
    | (none, later) => (.ok (arguments.headD .null), later)
    | (some error, later) => (.error error, later)⟩

end LiveTemplate
