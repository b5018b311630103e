import LiveTemplate.Proofs.Part.Effect

/-! The calls that parts make. A host can put its calls on record, which disturbs nothing. A part
calls nothing unless its evaluator takes a patch in and has a callee, and then it makes one call,
with the arguments that the evaluator keeps. -/
namespace LiveTemplate

/-- A call that was made, and what came of it. -/
structure Call where
  function : String
  arguments : List Value
  answer : Except Error Value

/-- The host with its calls on record, the latest at the end. -/
def Host.recording {σ : Type} (host : Host σ) : Host (σ × List Call) where
  shelf := host.shelf
  call function arguments s :=
    let (answer, t) := host.call function arguments s.1
    (answer, t, s.2 ++ [⟨function, arguments, answer⟩])

section Calls

variable {σ : Type} (host : Host σ)

/-- The calls in which an evaluator comes to its value. -/
def Evaluator.calls : Evaluator → σ → List Call
  | call _ _ parameters (.function name), s =>
    let arguments := parameters.map (·.2)
    [⟨name, arguments, (host.call name arguments s).1⟩]
  | _, _ => []

theorem Evaluator.value_recording (e : Evaluator) (s : σ) (record : List Call) :
    e.value host.recording (s, record) =
      ((e.value host s).1, (e.value host s).2, record ++ e.calls host s) := by
  unfold Evaluator.value Evaluator.calls
  cases e with
  | lookup key last => simp
  | call source function parameters callee => cases callee <;> simp [Host.recording]

namespace Part

/-- The calls on record after a reaction. -/
def calls (patch : Patch) (p : Part) (s : σ) : List Call :=
  (p.react host.recording patch (s, [])).2.2

variable {host} {patch : Patch} {p : Part}

/-- To put the calls on record is to react as ever. -/
theorem react_recording (host : Host σ) (patch : Patch) (p : Part) (s : σ) (record : List Call) :
    p.react host.recording patch (s, record) =
      ((p.react host patch s).1, (p.react host patch s).2, record ++ p.calls host patch s) := by
  unfold calls
  cases moved : p.evaluator.changed host.shelf p.comparison patch with
  | false =>
    have recorded : p.evaluator.changed host.recording.shelf p.comparison patch = false := moved
    simp [react_of_unchanged recorded, react_of_unchanged moved]
  | true =>
    have recorded : p.evaluator.changed host.recording.shelf p.comparison patch = true := moved
    cases absorbed : p.evaluator.absorb patch with
    | error error =>
      simp [react_of_rejected recorded absorbed, react_of_rejected moved absorbed]
    | ok taken =>
      simp only [react_of_absorbed recorded absorbed, react_of_absorbed moved absorbed,
        Evaluator.value_recording, List.nil_append]
      rfl

theorem calls_of_unchanged
    (unmoved : p.evaluator.changed host.shelf p.comparison patch = false) (s : σ) :
    p.calls host patch s = [] := by
  have recorded : p.evaluator.changed host.recording.shelf p.comparison patch = false := unmoved
  rw [calls, react_of_unchanged recorded]

theorem calls_of_rejected {error : Error}
    (moved : p.evaluator.changed host.shelf p.comparison patch = true)
    (rejected : p.evaluator.absorb patch = .error error) (s : σ) : p.calls host patch s = [] := by
  have recorded : p.evaluator.changed host.recording.shelf p.comparison patch = true := moved
  rw [calls, react_of_rejected recorded rejected]

theorem calls_of_taken {taken : Evaluator}
    (moved : p.evaluator.changed host.shelf p.comparison patch = true)
    (absorbed : p.evaluator.absorb patch = .ok taken) (s : σ) :
    p.calls host patch s = taken.calls host s := by
  have recorded : p.evaluator.changed host.recording.shelf p.comparison patch = true := moved
  rw [calls, react_of_absorbed recorded absorbed, Evaluator.value_recording, List.nil_append]

end Part
end Calls
end LiveTemplate
