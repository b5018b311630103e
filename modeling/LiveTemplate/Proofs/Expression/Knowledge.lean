import LiveTemplate.Expression.Evaluator

/-! What evaluators know. The value of an expression is a function of all that has been given so
far, merged key by key; an evaluator that takes in the patches one at a time comes to the same
value. -/
namespace LiveTemplate

/-- The value given last under each key, if there was one. -/
abbrev Knowledge := String → Option Value

namespace Knowledge

def nothing : Knowledge := fun _ => none

/-- What is known once a patch has been given: its values go before the earlier ones. -/
def learn (known : Knowledge) (patch : Patch) : Knowledge :=
  fun key => (patch.find? key).or (known key)

/-- What is known after several patches. -/
def ofPatches (patches : List Patch) : Knowledge := patches.foldl learn nothing

theorem learn_nothing (patch : Patch) : nothing.learn patch = fun key => patch.find? key := by
  funext key
  exact Option.or_none

end Knowledge

namespace Value

/-- The marker for no value stands for none. -/
def present? : Value → Option Value
  | unset => none
  | v => some v

theorem present?_ne_unset {v w : Value} (present : v.present? = some w) : w ≠ .unset := by
  rintro rfl
  cases v <;> simp [present?] at present

theorem present?_eq_some {v : Value} (given : v ≠ .unset) : v.present? = some v := by
  cases v <;> first | rfl | exact absurd rfl given

theorem getD_present? (v : Value) : v.present?.getD .unset = v := by
  cases v <;> rfl

end Value

namespace Expression

/-- The value of an expression for all that is known. A key without a value has none, and neither
has a call without a function; a parameter without a value is passed as `null`. -/
def value {σ : Type} (host : Host σ) (known : Knowledge) (text : String) (s : σ) :
    Except Error (Option Value) :=
  match Source.parse text with
  | .key name => .ok ((known name).bind Value.present?)
  | .call function parameters =>
    match (known function).bind Value.present? with
    | none => .ok none
    | some (.function name) =>
      (host.call name (parameters.map fun p => (known p).getD .null) s).1.map Value.present?
    | some other =>
      .error (.notCallable (String.ofList (Text.trim text.toList)) function other.typeName)

theorem value_ne_unset {σ : Type} {host : Host σ} {known : Knowledge} {text : String} {s : σ}
    {v : Value} (evaluated : value host known text s = .ok (some v)) : v ≠ .unset := by
  unfold value at evaluated
  split at evaluated
  · obtain ⟨w, -, present⟩ := Option.bind_eq_some_iff.mp (Except.ok.inj evaluated)
    exact Value.present?_ne_unset present
  · split at evaluated
    · cases evaluated
    · generalize Prod.fst _ = result at evaluated
      cases result with
      | error => cases evaluated
      | ok w => exact Value.present?_ne_unset (Except.ok.inj evaluated)
    · cases evaluated

end Expression

namespace Evaluator

/-- The evaluator of an expression to which all that is known has been given. -/
def knowing (known : Knowledge) (text : String) : Evaluator :=
  match Expression.Source.parse text with
  | .key name => lookup name ((known name).getD .unset)
  | .call function parameters =>
    call (String.ofList (Text.trim text.toList)) function
      (parameters.map fun p => (p, (known p).getD .null)) ((known function).getD .unset)

theorem ofSource_eq_knowing (text : String) : ofSource text = knowing .nothing text := by
  unfold ofSource knowing
  cases Expression.Source.parse text <;> rfl

theorem getD_learn (known : Knowledge) (patch : Patch) (key : String) (missing : Value) :
    (known.learn patch key).getD missing = (patch.find? key).getD ((known key).getD missing) := by
  unfold Knowledge.learn
  cases patch.find? key <;> rfl

theorem absorb_parameters (known : Knowledge) (patch : Patch) (parameters : List String) :
    (parameters.map fun p => (p, (known p).getD .null)).map (absorbParameter patch) =
      parameters.map fun p => (p, (known.learn patch p).getD .null) := by
  simp only [List.map_map, getD_learn]
  rfl

theorem bind_present? (known : Knowledge) (key : String) :
    (known key).bind Value.present? = ((known key).getD .unset).present? := by
  cases known key <;> rfl

/-- A call that takes a patch in updates every entry. -/
theorem eq_of_absorb_call {source function : String} {parameters : List (String × Value)}
    {callee : Value} {patch : Patch} {taken : Evaluator}
    (absorbed : (call source function parameters callee).absorb patch = .ok taken) :
    taken = call source function (parameters.map (absorbParameter patch))
      ((patch.find? function).getD callee) := by
  simp only [absorb] at absorbed
  split at absorbed
  case h_1 unset => rw [unset]; exact (Except.ok.inj absorbed).symm
  case h_2 name given => rw [given]; exact (Except.ok.inj absorbed).symm
  case h_3 => cases absorbed

/-- What takes in a patch that moves something knows what is known with it. -/
theorem eq_knowing_of_absorbed {shelf : Shelf} {how : Comparison} {known : Knowledge}
    {patch : Patch} {text : String} {taken : Evaluator}
    (moved : (knowing known text).changed shelf how patch = true)
    (absorbed : (knowing known text).absorb patch = .ok taken) :
    taken = knowing (known.learn patch) text := by
  unfold knowing at moved absorbed ⊢
  cases parsed : Expression.Source.parse text with
  | key name =>
    simp only [parsed, changed, moves] at moved
    simp only [parsed, absorb, Except.ok.injEq] at absorbed
    cases given : patch.find? name with
    | none => rw [given] at moved; cases moved
    | some v =>
      rw [given] at absorbed
      simp only [← absorbed, getD_learn, given, Option.getD_some]
  | call function parameters =>
    simp only [parsed] at absorbed
    rw [eq_of_absorb_call absorbed, absorb_parameters, ← getD_learn]

/-- A patch that moves something is taken in, unless it brings what cannot be called, and gives the
value for all that is known with it. -/
theorem get_of_changed {σ : Type} (host : Host σ) {how : Comparison} {known : Knowledge}
    {patch : Patch} {text : String}
    (moved : (knowing known text).changed host.shelf how patch = true) (s : σ) :
    ((knowing known text).get host patch s).1 =
        (Expression.value host (known.learn patch) text s).map (·.getD .unset) ∧
      ∀ v, Expression.value host (known.learn patch) text s = .ok v →
        ((knowing known text).get host patch s).2.1 = knowing (known.learn patch) text := by
  unfold knowing Expression.value at *
  cases parsed : Expression.Source.parse text with
  | key name =>
    simp only [parsed, changed, moves] at moved
    cases given : patch.find? name with
    | none => simp [given] at moved
    | some v =>
      simp [get, absorb, Evaluator.value, given, Knowledge.learn, Value.getD_present?, Except.map]
  | call function parameters =>
    simp only [get, absorb, absorb_parameters, bind_present?, getD_learn]
    cases (patch.find? function).getD ((known function).getD .unset) with
    | function name =>
      simp only [Value.present?, Evaluator.value, List.map_map, Function.comp_def]
      cases (host.call name _ s).1 <;> simp [Except.map, Value.getD_present?]
    | _ => simp [Value.present?, Evaluator.value, Except.map]

end Evaluator
end LiveTemplate
