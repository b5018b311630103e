import LiveTemplate.Proofs.Part.Calls
import Mathlib.Data.List.Forall2

/-! Property parts and the newest objects. A property follows the very object, equal or not: what it
holds is what was given last under its key, or what its function returned last, which was called
with the very objects given last. -/
namespace LiveTemplate

/-- No entry of the patch is the marker for no value. -/
def Patch.Definite (patch : Patch) : Prop := ∀ key v, patch.find? key = some v → v ≠ .unset

theorem Patch.definite_of_entries {patch : Patch} (present : ∀ entry ∈ patch, entry.2 ≠ .unset) :
    patch.Definite :=
  fun _ _ given => present _ (Entries.mem_of_find? given)

namespace Value

theorem eq_function_of_unmoved {shelf : Shelf} {v : Value} {name : String}
    (unmoved : differs shelf v (.function name) = false) : v = .function name := by
  cases v with
  | scalar id s => cases s <;> simp_all [differs, same, typeName, Scalar.typeName]
  | _ =>
    simp_all [differs, same, typeName, unequal, equal, equalWithin, listItems?, equalPlain,
      quantity?, nestingLimit]

end Value

namespace Evaluator

variable {shelf : Shelf} {known : Knowledge} {patch : Patch} {key : String}

/-- Unless another object comes under its key, an entry stays the newest. -/
theorem same_of_unmoved {last missing : Value}
    (unmoved : moves (Comparison.byIdentity.changed shelf) patch key last = false)
    (newest : last.same ((known key).getD missing) = true) :
    last.same ((known.learn patch key).getD missing) = true := by
  rw [getD_learn]
  unfold moves at unmoved
  cases given : patch.find? key with
  | none => exact newest
  | some v =>
    rw [given] at unmoved
    rw [Option.getD_some, Value.same_comm]
    simpa [Comparison.changed, Value.replaced] using unmoved

theorem callee_of_absorbed {source function : String} {parameters : List (String × Value)}
    {callee : Value} {taken : Evaluator}
    (absorbed : (call source function parameters callee).absorb patch = .ok taken)
    (given : (patch.find? function).getD callee ≠ .unset) :
    ∃ name, (patch.find? function).getD callee = .function name := by
  simp only [absorb] at absorbed
  split at absorbed
  case h_1 unset => exact absurd unset given
  case h_2 name callable => exact ⟨name, callable⟩
  case h_3 => cases absorbed

/-- An entry of a call holds the very object given last under its key, and `null` before the
first. -/
def Newest (known : Knowledge) (key : String) (entry : String × Value) : Prop :=
  entry.1 = key ∧ entry.2.same ((known key).getD .null) = true

theorem newest_of_unmoved {parameters : List String} {stored : List (String × Value)}
    (newest : List.Forall₂ (Newest known) parameters stored)
    (unmoved : ∀ entry ∈ stored,
      moves (Comparison.byIdentity.changed shelf) patch entry.1 entry.2 = false) :
    List.Forall₂ (Newest (known.learn patch)) parameters stored := by
  induction newest with
  | nil => exact .nil
  | cons here _ ih =>
    obtain ⟨still, others⟩ := List.forall_mem_cons.mp unmoved
    exact .cons ⟨here.1, same_of_unmoved (here.1 ▸ still) here.2⟩ (ih others)

/-- What a patch gives is taken in, and all else stays as it was. -/
theorem newest_of_absorbed {parameters : List String} {stored : List (String × Value)}
    (newest : List.Forall₂ (Newest known) parameters stored) :
    List.Forall₂ (Newest (known.learn patch)) parameters
      (stored.map (absorbParameter patch)) := by
  refine List.forall₂_map_right_iff.mpr (newest.imp ?_)
  rintro _ ⟨key, last⟩ ⟨rfl, same⟩
  refine ⟨rfl, ?_⟩
  rw [getD_learn]
  dsimp only [absorbParameter]
  cases patch.find? key with
  | none => exact same
  | some v => exact Value.same_self v

end Evaluator

namespace Part

theorem comparison_of_property {p : Part} (kind : p.descriptor.kind = .property) :
    p.comparison = .byIdentity := by
  rw [comparison, kind]
  rfl

/-- Settling a raw value of a property leaves the part with that very object. -/
theorem same_settle {shelf : Shelf} {p : Part} {e : Evaluator} {raw : Value}
    (kind : p.descriptor.kind = .property) (given : raw ≠ .unset)
    (passed : (p.settle shelf e raw).error? = none) :
    (p.after (p.settle shelf e raw)).value.same raw = true := by
  have present : isUnset raw = false := by
    cases raw <;> first | rfl | exact absurd rfl given
  have how := comparison_of_property kind
  unfold settle at passed ⊢
  simp only [present, Descriptor.cast, kind, how, write, Bool.false_eq_true, if_false] at passed ⊢
  cases moved : Comparison.byIdentity.changed shelf raw p.value with
  | false =>
    have same : raw.same p.value = true := by
      simpa [Comparison.changed, Value.replaced] using moved
    rw [if_neg Bool.false_ne_true, Value.same_comm]
    exact same
  | true =>
    rw [moved, if_pos rfl] at passed
    rw [if_pos rfl]
    by_cases fits : (Edit.setProperty p.descriptor.name raw).fits p.nodeType = true
    · rw [if_pos fits]
      exact Value.same_self raw
    · rw [if_neg fits] at passed
      cases passed

/-- A property part that takes a patch in without an error is left with what it has taken in and,
unless there is none, the very object that this gives. -/
theorem passed_of_taken {σ : Type} {host : Host σ} {patch : Patch} {p : Part} {s : σ}
    {taken : Evaluator} (kind : p.descriptor.kind = .property)
    (moved : p.evaluator.changed host.shelf p.comparison patch = true)
    (absorbed : p.evaluator.absorb patch = .ok taken)
    (passed : (p.react host patch s).1.error? = none) :
    (p.after (p.react host patch s).1).evaluator = taken ∧
      ∃ raw, (taken.value host s).1 = .ok raw ∧
        (raw ≠ .unset → (p.after (p.react host patch s).1).value.same raw = true) := by
  rw [react_of_absorbed moved absorbed] at passed ⊢
  cases evaluated : (taken.value host s).1 with
  | error error =>
    rw [evaluated] at passed
    cases passed
  | ok raw =>
    rw [evaluated] at passed
    exact ⟨evaluator_after_settle .., raw, rfl, fun given => same_settle kind given passed⟩

/-- A lookup, and its property, hold the very object given last, and no value before the first. -/
structure FollowsKey (known : Knowledge) (name : String) (p : Part) : Prop where
  evaluator : ∃ last, p.evaluator = .lookup name last ∧
    last.same ((known name).getD .unset) = true
  value : p.value.same ((known name).getD .unset) = true

/-- A call keeps the very objects given last for its parameters, with `null` for what was never
given, and the function given last; once there is one it was called with just these, and unless
that gave no value, the property holds the very object that it returned. -/
structure FollowsCall (known : Knowledge) (calls : List Call) (function : String)
    (parameters : List String) (p : Part) (stored : List (String × Value)) : Prop where
  evaluator : ∃ source, p.evaluator =
    .call source function stored ((known function).getD .unset)
  newest : List.Forall₂ (Evaluator.Newest known) parameters stored
  called : ∀ callee, known function = some callee → ∃ name answer, callee = .function name ∧
    calls.getLast? = some ⟨name, stored.map Prod.snd, .ok answer⟩ ∧
    (answer ≠ .unset → p.value.same answer = true)

/-- How a property part that has made these calls stands to all that is known. -/
def HoldsNewest (known : Knowledge) (calls : List Call) (p : Part) : Prop :=
  match Expression.Source.parse p.descriptor.expression with
  | .key name => p.FollowsKey known name
  | .call function parameters => ∃ stored, p.FollowsCall known calls function parameters stored

theorem HoldsNewest.of_fresh {p : Part} (fresh : p.Fresh) : p.HoldsNewest .nothing [] := by
  have evaluator : p.evaluator = .knowing .nothing p.descriptor.expression := by
    rw [fresh]
    exact Evaluator.ofSource_eq_knowing _
  have value : p.value = .unset := by rw [fresh]; rfl
  unfold Evaluator.knowing at evaluator
  unfold HoldsNewest
  cases parsed : Expression.Source.parse p.descriptor.expression with
  | key name =>
    rw [parsed] at evaluator
    exact ⟨⟨.unset, evaluator, rfl⟩, by rw [value]; rfl⟩
  | call function parameters =>
    rw [parsed] at evaluator
    refine ⟨_, ⟨_, evaluator⟩, ?_, nofun⟩
    rw [List.forall₂_map_right_iff, List.forall₂_same]
    exact fun key _ => ⟨rfl, rfl⟩

section React

variable {σ : Type} {host : Host σ} {known : Knowledge} {calls : List Call} {patch : Patch}
  {p : Part} {s : σ}

theorem FollowsKey.react {name : String} (follows : p.FollowsKey known name)
    (kind : p.descriptor.kind = .property) (definite : patch.Definite)
    (passed : (p.react host patch s).1.error? = none) :
    (p.after (p.react host patch s).1).FollowsKey (known.learn patch) name := by
  obtain ⟨last, evaluator, newest⟩ := follows.evaluator
  have how := comparison_of_property kind
  cases moved : p.evaluator.changed host.shelf p.comparison patch with
  | false =>
    rw [react_of_unchanged moved]
    rw [evaluator, how] at moved
    have still := Evaluator.same_of_unmoved moved newest
    have one := Value.same_trans follows.value (Value.same_comm .. ▸ newest)
    exact ⟨⟨last, evaluator, still⟩, Value.same_trans one still⟩
  | true =>
    obtain ⟨v, given⟩ : ∃ v, patch.find? name = some v := by
      rw [evaluator, how] at moved
      simp only [Evaluator.changed, Evaluator.moves] at moved
      cases given : patch.find? name with
      | none => rw [given] at moved; cases moved
      | some v => exact ⟨v, rfl⟩
    have newest : (known.learn patch name).getD .unset = v := by
      rw [Evaluator.getD_learn, given, Option.getD_some]
    have absorbed : p.evaluator.absorb patch = .ok (.lookup name v) := by
      rw [evaluator, Evaluator.absorb, given, Option.getD_some]
    obtain ⟨taken, raw, evaluated, same⟩ := passed_of_taken kind moved absorbed passed
    cases evaluated
    refine ⟨⟨v, taken, ?_⟩, ?_⟩
    · rw [newest]; exact Value.same_self v
    · rw [newest]; exact same (definite name v given)

/-- A part that takes nothing in has lost nothing. -/
theorem FollowsCall.idle {function : String} {parameters : List String}
    {stored : List (String × Value)}
    (follows : p.FollowsCall known calls function parameters stored)
    (kind : p.descriptor.kind = .property) (definite : patch.Definite)
    (unmoved : p.evaluator.changed host.shelf p.comparison patch = false) :
    p.FollowsCall (known.learn patch) calls function parameters stored := by
  obtain ⟨source, evaluator⟩ := follows.evaluator
  rw [evaluator, comparison_of_property kind] at unmoved
  simp only [Evaluator.changed, Bool.or_eq_false_iff, List.any_eq_false,
    Bool.not_eq_true] at unmoved
  -- The function is compared by value, but only functions are stored, and nothing else equals one.
  have callee : known.learn patch function = known function := by
    unfold Knowledge.learn
    cases given : patch.find? function with
    | none => rfl
    | some f =>
      have quiet := unmoved.2
      simp only [Evaluator.moves, given] at quiet
      cases before : known function with
      | none =>
        rw [before, Option.getD_none, Value.differs_unset (definite function f given)] at quiet
        cases quiet
      | some g =>
        obtain ⟨name, -, rfl, -⟩ := follows.called g before
        rw [before, Option.getD_some] at quiet
        rw [Value.eq_function_of_unmoved quiet]
        rfl
  exact ⟨⟨source, by rw [callee, evaluator]⟩, Evaluator.newest_of_unmoved follows.newest unmoved.1,
    by rw [callee]; exact follows.called⟩

/-- What a part keeps of a patch that it takes in is what it calls its function with. -/
theorem FollowsCall.take {function : String} {parameters : List String}
    {stored : List (String × Value)}
    (follows : p.FollowsCall known calls function parameters stored)
    (kind : p.descriptor.kind = .property) (definite : patch.Definite) {taken : Evaluator}
    (moved : p.evaluator.changed host.shelf p.comparison patch = true)
    (absorbed : p.evaluator.absorb patch = .ok taken)
    (passed : (p.react host patch s).1.error? = none) :
    (p.after (p.react host patch s).1).FollowsCall (known.learn patch)
      (calls ++ p.calls host patch s) function parameters
      (stored.map (Evaluator.absorbParameter patch)) := by
  obtain ⟨source, evaluator⟩ := follows.evaluator
  have made : p.calls host patch s = taken.calls host s := calls_of_taken moved absorbed s
  obtain ⟨taken, raw, evaluated, same⟩ := passed_of_taken kind moved absorbed passed
  rw [evaluator] at absorbed
  have whole := Evaluator.eq_of_absorb_call absorbed
  rw [← Evaluator.getD_learn] at whole
  subst whole
  refine ⟨⟨source, taken⟩, Evaluator.newest_of_absorbed follows.newest, ?_⟩
  intro callee given
  have newest := Evaluator.getD_learn known patch function .unset
  rw [given, Option.getD_some] at newest
  have callable : callee ≠ .unset := by
    unfold Knowledge.learn at given
    cases here : patch.find? function with
    | some f =>
      rw [here] at given
      cases given
      exact definite function callee here
    | none =>
      rw [here, Option.none_or] at given
      obtain ⟨name, -, rfl, -⟩ := follows.called callee given
      exact Value.noConfusion
  obtain ⟨name, rfl⟩ : ∃ name, callee = .function name := by
    rw [newest] at callable ⊢
    exact Evaluator.callee_of_absorbed absorbed callable
  rw [given, Option.getD_some] at evaluated made
  refine ⟨name, raw, rfl, ?_, same⟩
  rw [made, Evaluator.calls, List.getLast?_concat]
  exact congrArg (fun answer => some (Call.mk name _ answer)) evaluated

/-- What holds of a property part holds after the next patch, too. -/
theorem HoldsNewest.react (newest : p.HoldsNewest known calls)
    (kind : p.descriptor.kind = .property) (definite : patch.Definite)
    (passed : (p.react host patch s).1.error? = none) :
    (p.after (p.react host patch s).1).HoldsNewest (known.learn patch)
      (calls ++ p.calls host patch s) := by
  unfold HoldsNewest at newest ⊢
  rw [descriptor_after]
  cases parsed : Expression.Source.parse p.descriptor.expression with
  | key name =>
    rw [parsed] at newest
    exact newest.react kind definite passed
  | call function parameters =>
    rw [parsed] at newest
    obtain ⟨stored, follows⟩ := newest
    rcases react_cases host patch p s with
      ⟨unmoved, idle⟩ | ⟨moved, ⟨error, -, failed⟩ | ⟨taken, absorbed, -⟩⟩
    · rw [idle, calls_of_unchanged unmoved, List.append_nil]
      exact ⟨stored, follows.idle kind definite unmoved⟩
    · rw [failed] at passed
      cases passed
    · exact ⟨_, follows.take kind definite moved absorbed passed⟩

end React
end Part
end LiveTemplate
