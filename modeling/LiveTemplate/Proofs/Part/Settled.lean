import LiveTemplate.Proofs.Part.Effect
import LiveTemplate.Proofs.Value.Cast
import LiveTemplate.Proofs.Value.Form

/-! Parts under ordinary patches. Such values are compared as they are told apart, so what a part
keeps is what its binding applies for all that is known: a patch makes it write exactly if that
moves. Which object a number or string is makes no difference, except that a property is set anew
for another object. -/
namespace LiveTemplate

/-- Nothing counts as unchanged from an ordinary value but a value of the same form. -/
theorem Comparison.form_eq_of_unchanged (how : Comparison) (shelf : Shelf) {v w : Value}
    (ordinary : v.isOrdinary = true) (unchanged : how.changed shelf v w = false) :
    v.form = w.form := by
  cases how with
  | byValue => exact (Value.differs_eq_false_iff shelf ordinary w).mp unchanged
  | byIdentity =>
    rw [Comparison.changed, Value.replaced, Bool.not_eq_false'] at unchanged
    exact Value.form_eq_of_same ordinary unchanged

/-- A function that never fails and whose answer is plain and depends on the values of its arguments
alone, whichever objects they are. Its arguments are ordinary. -/
def Host.Tame {σ : Type} (host : Host σ) (function : String) : Prop :=
  ∀ vs : List Value, (∀ v ∈ vs, v.isOrdinary = true) →
    ∃ answer : Value, answer.isPlain = true ∧
      ∀ ws : List Value, ws.map Value.form = vs.map Value.form →
        ∀ s, ((host.call function ws s).1.map Value.form) = .ok answer

/-- Under each key a plain value or a tame function. -/
def Knowledge.Ordinary {σ : Type} (host : Host σ) (known : Knowledge) : Prop :=
  ∀ key v, known key = some v →
    v.isPlain = true ∨ ∃ name, v = .function name ∧ host.Tame name

abbrev Patch.Ordinary {σ : Type} (host : Host σ) (patch : Patch) : Prop :=
  Knowledge.Ordinary host fun key => patch.find? key

theorem Patch.ordinary_of_entries {σ : Type} {host : Host σ} {patch : Patch}
    (entries : ∀ e ∈ patch, e.2.isPlain = true ∨ ∃ name, e.2 = .function name ∧ host.Tame name) :
    patch.Ordinary host :=
  fun _ _ given => entries _ (Entries.mem_of_find? given)

namespace Knowledge

variable {σ : Type} {host : Host σ} {known others : Knowledge} {patch : Patch} {text : String}

theorem Ordinary.nothing : Ordinary host Knowledge.nothing := by
  intro key v given
  cases given

theorem Ordinary.value (ordinary : known.Ordinary host) {key : String} {v : Value}
    (given : known key = some v) : v.isOrdinary = true := by
  rcases ordinary key v given with plain | ⟨name, rfl, -⟩
  · exact Value.ordinary_of_plain plain
  · rfl

theorem Ordinary.learn (ordinary : known.Ordinary host) (given : patch.Ordinary host) :
    (known.learn patch).Ordinary host := by
  intro key v found
  rcases Option.or_eq_some_iff.mp found with new | ⟨-, old⟩
  · exact given key v new
  · exact ordinary key v old

theorem Ordinary.foldl (ordinary : known.Ordinary host) {patches : List Patch}
    (given : ∀ patch ∈ patches, patch.Ordinary host) :
    (patches.foldl Knowledge.learn known).Ordinary host := by
  induction patches generalizing known with
  | nil => exact ordinary
  | cons patch rest ih =>
    obtain ⟨here, others⟩ := List.forall_mem_cons.mp given
    exact ih (ordinary.learn here) others

theorem Ordinary.ofPatches {patches : List Patch} (given : ∀ patch ∈ patches, patch.Ordinary host) :
    (Knowledge.ofPatches patches).Ordinary host :=
  Ordinary.nothing.foldl given

theorem Ordinary.arguments (ordinary : known.Ordinary host) (parameters : List String) :
    ∀ v ∈ parameters.map (fun p => (known p).getD .null), v.isOrdinary = true := by
  intro v member
  obtain ⟨p, -, rfl⟩ := List.mem_map.mp member
  cases given : known p with
  | none => rfl
  | some w => exact ordinary.value given

/-- Known alike for an expression: what an evaluator of it keeps has the same forms. -/
def Alike (text : String) (known others : Knowledge) : Prop :=
  match Expression.Source.parse text with
  | .key name => ((known name).getD .unset).form = ((others name).getD .unset).form
  | .call function parameters =>
    ((known function).getD .unset).form = ((others function).getD .unset).form ∧
      ∀ p ∈ parameters, ((known p).getD .null).form = ((others p).getD .null).form

theorem Alike.refl (text : String) (known : Knowledge) : Alike text known known := by
  unfold Alike
  cases Expression.Source.parse text with
  | key name => rfl
  | call function parameters => exact ⟨rfl, fun _ _ => rfl⟩

/-- What is known alike stays so when the same patch is given to both. -/
theorem Alike.learn (alike : Alike text known others) (patch : Patch) :
    Alike text (known.learn patch) (others.learn patch) := by
  have given {key : String} {missing : Value}
      (forms : ((known key).getD missing).form = ((others key).getD missing).form) :
      ((known.learn patch key).getD missing).form =
        ((others.learn patch key).getD missing).form := by
    rw [Evaluator.getD_learn, Evaluator.getD_learn]
    cases patch.find? key with
    | none => exact forms
    | some v => rfl
  unfold Alike at *
  cases parsed : Expression.Source.parse text with
  | key name =>
    rw [parsed] at alike
    exact given alike
  | call function parameters =>
    rw [parsed] at alike
    exact ⟨given alike.1, fun p member => given (alike.2 p member)⟩

/-- A patch that changes nothing for an evaluator tells it nothing that it does not know. -/
theorem Alike.learn_of_unchanged {shelf : Shelf} {how : Comparison}
    (alike : Alike text known others) (given : patch.Ordinary host)
    (unmoved : (Evaluator.knowing known text).changed shelf how patch = false) :
    Alike text known (others.learn patch) := by
  have still {how : Comparison} {key : String} {missing : Value}
      (unmoved : Evaluator.moves (how.changed shelf) patch key ((known key).getD missing) = false)
      (forms : ((known key).getD missing).form = ((others key).getD missing).form) :
      ((known key).getD missing).form = ((others.learn patch key).getD missing).form := by
    rw [Evaluator.getD_learn]
    unfold Evaluator.moves at unmoved
    cases found : patch.find? key with
    | none => exact forms
    | some v =>
      rw [found] at unmoved
      exact (how.form_eq_of_unchanged shelf (given.value found) unmoved).symm
  unfold Alike at *
  unfold Evaluator.knowing at unmoved
  cases parsed : Expression.Source.parse text with
  | key name =>
    simp only [parsed, Evaluator.changed] at alike unmoved
    exact still unmoved alike
  | call function parameters =>
    simp only [parsed, Evaluator.changed, Bool.or_eq_false_iff, List.any_eq_false, List.mem_map]
      at alike unmoved
    have callee : Evaluator.moves (Comparison.byValue.changed shelf) patch function
        ((known function).getD .unset) = false := unmoved.2
    exact ⟨still callee alike.1, fun p member =>
      still (by simpa using unmoved.1 _ ⟨p, member, rfl⟩) (alike.2 p member)⟩

end Knowledge

namespace Expression

/-- The key on which it hangs whether an expression has a value: its own, or its function's. -/
def Source.subject : Source → String
  | key name => name
  | call function _ => function

variable {σ : Type} {host : Host σ} {known others : Knowledge}

/-- What is given alike to an ordinary value is an ordinary value. -/
theorem given_alike {key : String} {v : Value} (ordinary : others.Ordinary host)
    (admitted : v.isOrdinary = true) (forms : ((others key).getD .unset).form = v.form) :
    ∃ w, others key = some w ∧ w.isOrdinary = true ∧ w.form = v.form := by
  cases found : others key with
  | none =>
    rw [found] at forms
    exact absurd (Value.form_eq_unset_iff.mp forms.symm) (Value.ne_unset_of_ordinary admitted)
  | some w =>
    rw [found] at forms
    exact ⟨w, rfl, ordinary.value found, forms⟩

theorem missing_alike {key : String} (ordinary : others.Ordinary host)
    (forms : ((others key).getD .unset).form = .unset) : others key = none := by
  cases found : others key with
  | none => rfl
  | some w =>
    rw [found] at forms
    exact absurd (Value.form_eq_unset_iff.mp forms)
      (Value.ne_unset_of_ordinary (ordinary.value found))

section Cases

variable {text function name : String} {parameters : List String} {v callee answer : Value}

theorem value_of_missing (missing : known (Source.parse text).subject = none) (s : σ) :
    value host known text s = .ok none := by
  unfold value
  cases parsed : Source.parse text <;> rw [parsed, Source.subject] at missing <;>
    simp [missing]

theorem value_of_key (parsed : Source.parse text = .key name) (ordinary : others.Ordinary host)
    (admitted : v.isOrdinary = true) (forms : ((others name).getD .unset).form = v.form) (s : σ) :
    ∃ w, value host others text s = .ok (some w) ∧ w.form = v.form := by
  obtain ⟨w, found, present, forms⟩ := given_alike ordinary admitted forms
  refine ⟨w, ?_, forms⟩
  simp only [value, parsed, found, Option.bind_some]
  exact congrArg Except.ok (Value.present?_eq_some (Value.ne_unset_of_ordinary present))

/-- A plain value in the place of a function cannot be called. -/
theorem value_of_plain_callee (parsed : Source.parse text = .call function parameters)
    (ordinary : others.Ordinary host) (plain : callee.isPlain = true)
    (forms : ((others function).getD .unset).form = callee.form) (s : σ) :
    value host others text s = .error
      (.notCallable (String.ofList (Text.trim text.toList)) function callee.typeName) := by
  obtain ⟨w, found, -, forms⟩ := given_alike ordinary (Value.ordinary_of_plain plain) forms
  have type : w.typeName = callee.typeName := by
    rw [← Value.typeName_form, forms, Value.typeName_form]
  have kind : w.isPlain = true := by
    rw [← Value.isPlain_form, forms, Value.isPlain_form]
    exact plain
  simp only [value, parsed, found, ← type]
  cases w with
  | null | bool _ | scalar _ _ => rfl
  | _ => cases kind

/-- The value of a call is the answer of its function. -/
theorem value_of_answer (parsed : Source.parse text = .call function parameters)
    (ordinary : others.Ordinary host)
    (forms : ((others function).getD .unset).form = .function name) (plain : answer.isPlain = true)
    {s : σ} (answered : ((host.call name (parameters.map fun p => (others p).getD .null) s).1.map
      Value.form) = .ok answer) :
    ∃ w, value host others text s = .ok (some w) ∧ w.form = answer := by
  obtain ⟨callee, found, -, forms⟩ := given_alike ordinary (v := .function name) rfl forms
  obtain rfl : callee = .function name := by
    cases callee <;> simp_all [Value.form]
  simp only [value, parsed, found, Option.bind_some, Value.present?]
  cases result : (host.call name (parameters.map fun p => (others p).getD .null) s).1 with
  | error error => rw [result] at answered; cases answered
  | ok w =>
    rw [result] at answered
    cases answered
    refine ⟨w, congrArg Except.ok (Value.present?_eq_some ?_), rfl⟩
    exact Value.ne_unset_of_ordinary (Value.ordinary_of_plain (by simpa using plain))

end Cases

/-- An expression whose subject was never given has no value. Otherwise it has values of one
ordinary form, or its function cannot be called. The host's state makes no difference, nor which
objects the numbers and strings are that are known. -/
theorem value_cases (ordinary : known.Ordinary host) (text : String) :
    (known (Source.parse text).subject = none ∧ ∀ others s, others.Ordinary host →
      others.Alike text known → value host others text s = .ok none) ∨
    (known (Source.parse text).subject ≠ none ∧ ∃ v : Value, v.isOrdinary = true ∧
      ∀ others s, others.Ordinary host → others.Alike text known →
        ∃ w, value host others text s = .ok (some w) ∧ w.form = v) ∨
    (known (Source.parse text).subject ≠ none ∧ ∃ error, ∀ others s, others.Ordinary host →
      others.Alike text known → value host others text s = .error error) := by
  unfold Knowledge.Alike
  cases given : known (Source.parse text).subject with
  | none =>
    refine .inl ⟨rfl, fun others s admitted alike => value_of_missing (missing_alike admitted ?_) s⟩
    cases parsed : Source.parse text with
    | key name =>
      rw [parsed, Source.subject] at given
      simp only [parsed, given, Option.getD_none] at alike
      exact alike
    | call function parameters =>
      rw [parsed, Source.subject] at given
      simp only [parsed, given, Option.getD_none] at alike
      exact alike.1
  | some v =>
    cases parsed : Source.parse text with
    | key name =>
      rw [parsed, Source.subject] at given
      have admitted := ordinary.value given
      refine .inr (.inl ⟨Option.some_ne_none v, v.form, by simpa using admitted,
        fun others s plain alike => value_of_key parsed plain admitted ?_ s⟩)
      simpa only [given, Option.getD_some] using alike
    | call function parameters =>
      rw [parsed, Source.subject] at given
      simp only [given, Option.getD_some]
      rcases ordinary function v given with plain | ⟨name, rfl, tame⟩
      · exact .inr (.inr ⟨Option.some_ne_none v, _, fun others s admitted alike =>
          value_of_plain_callee parsed admitted plain alike.1 s⟩)
      · obtain ⟨answer, plain, answers⟩ := tame _ (ordinary.arguments parameters)
        refine .inr (.inl ⟨Option.some_ne_none _, answer, Value.ordinary_of_plain plain,
          fun others s admitted alike => value_of_answer parsed admitted alike.1 plain ?_⟩)
        exact answers _ (by simpa using alike.2) s

end Expression

/-- An edit without regard to which number or string a property is set to. -/
def Edit.form : Edit → Edit
  | setProperty name v => setProperty name v.form
  | e => e

def Applied.form (a : Applied) : Applied := ⟨a.value.form, a.edit.form⟩

namespace Descriptor

variable {σ : Type} {host : Host σ} {known others : Knowledge} {d : Descriptor}

/-- What a binding is to apply for all that is known, without regard to which objects the numbers
and strings are. -/
def outcome (host : Host σ) (known : Knowledge) (d : Descriptor) (s : σ) :
    Except Error (Option Applied) :=
  (d.effect host known s).map (Option.map Applied.form)

theorem outcome_eq_ok_iff {s : σ} {cast : Option Applied} :
    d.outcome host known s = .ok cast ↔
      ∃ exact, d.effect host known s = .ok exact ∧ exact.map Applied.form = cast := by
  unfold outcome
  cases d.effect host known s <;> simp [Except.map]

/-- A binding casts values of one form to the same. -/
theorem cast_form {shelf : Shelf} {v w : Value} (forms : v.form = w.form) :
    (d.cast shelf v).map Applied.form = (d.cast shelf w).map Applied.form := by
  by_cases property : d.kind = .property
  · rw [cast_property property, cast_property property]
    exact congrArg (fun v => Except.ok (Applied.mk v (.setProperty d.name v))) forms
  · rw [cast_congr property (Value.truth?_eq_of_form forms) (Value.display_eq_of_form forms)]

theorem outcome_of_value {s : σ} {v w : Value}
    (evaluated : Expression.value host known d.expression s = .ok (some w))
    (forms : w.form = v.form) :
    d.outcome host known s = ((d.cast host.shelf v).map Applied.form).map some := by
  rw [outcome, effect, evaluated, ← cast_form forms]
  dsimp only
  cases d.cast host.shelf w <;> rfl

/-- The outcome is the same for all that is known alike, in every state of the host. -/
theorem outcome_eq_of_alike (ordinary : known.Ordinary host) (plain : others.Ordinary host)
    (alike : others.Alike d.expression known) (s t : σ) :
    d.outcome host others s = d.outcome host known t := by
  have own := Knowledge.Alike.refl d.expression known
  rcases Expression.value_cases ordinary d.expression with
    ⟨-, value⟩ | ⟨-, v, -, value⟩ | ⟨-, error, value⟩
  · rw [outcome, outcome, effect, effect, value others s plain alike, value known t ordinary own]
  · obtain ⟨w, evaluated, forms⟩ := value others s plain alike
    obtain ⟨u, also, same⟩ := value known t ordinary own
    rw [outcome_of_value evaluated (forms.trans same.symm), outcome_of_value also rfl]
  · rw [outcome, outcome, effect, effect, value others s plain alike, value known t ordinary own]

theorem effect_value_ordinary (ordinary : known.Ordinary host) {s : σ} {applied : Applied}
    (effect : d.effect host known s = .ok (some applied)) : applied.value.isOrdinary = true := by
  obtain ⟨v, evaluated, cast⟩ := effect_cases effect
  have own := Knowledge.Alike.refl d.expression known
  have given : v.isOrdinary = true := by
    rcases Expression.value_cases ordinary d.expression with
      ⟨-, value⟩ | ⟨-, w, admitted, value⟩ | ⟨-, error, value⟩
    · cases evaluated.symm.trans (value known s ordinary own)
    · obtain ⟨u, also, rfl⟩ := value known s ordinary own
      cases evaluated.symm.trans also
      simpa using admitted
    · cases evaluated.symm.trans (value known s ordinary own)
  rcases cast_cases cast with ⟨-, s, -, rfl⟩ | ⟨-, s, -, rfl⟩ | ⟨-, b, -, rfl⟩ | ⟨-, rfl⟩
  · rfl
  · rfl
  · rfl
  · exact given

/-- A binding tells what it applies by the form of the value alone. -/
theorem form_eq_of_value_form_eq {shelf : Shelf} {v w : Value} {a b : Applied}
    (first : d.cast shelf v = .ok a) (second : d.cast shelf w = .ok b)
    (forms : a.value.form = b.value.form) : a.form = b.form := by
  rcases cast_cases first with
    ⟨kind, s, -, rfl⟩ | ⟨kind, s, -, rfl⟩ | ⟨kind, s, -, rfl⟩ | ⟨kind, rfl⟩
  all_goals rcases cast_cases second with
    ⟨other, t, -, rfl⟩ | ⟨other, t, -, rfl⟩ | ⟨other, t, -, rfl⟩ | ⟨other, rfl⟩
  -- Bindings of two kinds are none; of one kind, the values are the ones that were cast.
  all_goals
    rw [kind] at other
    cases other
  case inr.inr.inr => exact congrArg (fun v => Applied.mk v (.setProperty d.name v)) forms
  all_goals
    cases forms
    rfl

/-- A binding tells by the form of an edit which value it applies. -/
theorem value_form_eq_of_edit_form_eq {shelf : Shelf} {v w : Value} {a b : Applied}
    (first : d.cast shelf v = .ok a) (second : d.cast shelf w = .ok b)
    (forms : a.edit.form = b.edit.form) : a.value.form = b.value.form := by
  rcases cast_cases first with
    ⟨kind, s, -, rfl⟩ | ⟨kind, s, -, rfl⟩ | ⟨kind, s, -, rfl⟩ | ⟨kind, rfl⟩
  all_goals rcases cast_cases second with
    ⟨other, t, -, rfl⟩ | ⟨other, t, -, rfl⟩ | ⟨other, t, -, rfl⟩ | ⟨other, rfl⟩
  all_goals
    rw [kind] at other
    cases other
  case inr.inr.inr => exact (Edit.setProperty.inj forms).2
  all_goals
    cases forms
    rfl

/-- Unless it is a property that is set, the form of an edit is the edit. -/
theorem edit_form_of_byValue {shelf : Shelf} {v : Value} {a : Applied}
    (how : d.kind.comparison = .byValue) (cast : d.cast shelf v = .ok a) :
    a.form.edit = a.edit := by
  rcases cast_cases cast with ⟨-, s, -, rfl⟩ | ⟨-, s, -, rfl⟩ | ⟨-, b, -, rfl⟩ | ⟨kind, rfl⟩
  · rfl
  · rfl
  · rfl
  · rw [kind] at how
    cases how

theorem outcome_eq_none_iff (ordinary : known.Ordinary host) (s : σ) :
    d.outcome host known s = .ok none ↔
      known (Expression.Source.parse d.expression).subject = none := by
  have own := Knowledge.Alike.refl d.expression known
  rcases Expression.value_cases ordinary d.expression with
    ⟨missing, value⟩ | ⟨supplied, v, -, value⟩ | ⟨supplied, error, value⟩
  · simp [outcome, effect, value known s ordinary own, missing, Except.map]
  · obtain ⟨w, evaluated, -⟩ := value known s ordinary own
    rw [outcome_of_value evaluated rfl]
    cases d.cast host.shelf w <;> simp [Except.map, supplied]
  · simp [outcome, effect, value known s ordinary own, supplied, Except.map]

/-- What once has a value keeps having one. -/
theorem outcome_stays (ordinary : known.Ordinary host) {patch : Patch}
    (given : patch.Ordinary host) {s t : σ} {applied : Applied}
    (before : d.outcome host known s = .ok (some applied)) :
    d.outcome host (known.learn patch) t ≠ .ok none := by
  rw [Ne, outcome_eq_none_iff (ordinary.learn given)]
  intro missing
  have never := (outcome_eq_none_iff ordinary s).mpr (Option.or_eq_none_iff.mp missing).2
  cases before.symm.trans never

end Descriptor

namespace Part

variable {σ : Type} {host : Host σ} {known held : Knowledge} {patch : Patch} {p : Part}

/-- The evaluator has taken in what is known alike to all that was given. -/
structure Keeps (host : Host σ) (known : Knowledge) (p : Part) (held : Knowledge) : Prop where
  evaluator : p.evaluator = .knowing held p.descriptor.expression
  ordinary : held.Ordinary host
  alike : held.Alike p.descriptor.expression known

/-- What an evaluator that keeps all that is known makes of a patch has the outcome for all that is
known then. -/
theorem Keeps.outcome (keeps : p.Keeps host known held) (ordinary : known.Ordinary host)
    (given : patch.Ordinary host) (s t : σ) :
    p.descriptor.outcome host (held.learn patch) s =
      p.descriptor.outcome host (known.learn patch) t :=
  Descriptor.outcome_eq_of_alike (ordinary.learn given) (keeps.ordinary.learn given)
    (keeps.alike.learn patch) s t

theorem Keeps.idle (keeps : p.Keeps host known held) (given : patch.Ordinary host)
    (unmoved : p.evaluator.changed host.shelf p.comparison patch = false) :
    p.Keeps host (known.learn patch) held where
  evaluator := keeps.evaluator
  ordinary := keeps.ordinary
  alike := keeps.alike.learn_of_unchanged given (keeps.evaluator ▸ unmoved)

theorem Keeps.taken (keeps : p.Keeps host known held) (given : patch.Ordinary host) {r : Reaction}
    (evaluator : (p.after r).evaluator = .knowing (held.learn patch) p.descriptor.expression) :
    (p.after r).Keeps host (known.learn patch) (held.learn patch) := by
  refine ⟨?_, keeps.ordinary.learn given, ?_⟩
  · rw [evaluator, descriptor_after]
  · rw [descriptor_after]
    exact keeps.alike.learn patch

/-- A part to which all that is known has been given, and which has applied `cast`. -/
structure Settled (host : Host σ) (known : Knowledge) (cast : Option Applied) (p : Part) :
    Prop where
  kept : ∃ held, p.Keeps host known held
  outcome : ∀ s, p.descriptor.outcome host known s = .ok cast
  value : p.value.form = (cast.map Applied.value).getD .unset

/-- The edit that is due now is made exactly if it is another than the one due before. -/
def Moved (before now made : Option Edit) : Prop :=
  (now = before ∧ made = none) ∨ (now ≠ before ∧ made = now)

theorem Settled.of_fresh (fresh : p.Fresh) :
    p.Settled host .nothing none := by
  refine ⟨⟨.nothing, ?_, .nothing, .refl _ _⟩, fun s => ?_, ?_⟩
  · rw [fresh]; exact Evaluator.ofSource_eq_knowing _
  · rw [Descriptor.outcome_eq_none_iff .nothing]; rfl
  · rw [fresh]; rfl

theorem Settled.learn_of_unchanged {before : Option Applied} (settled : p.Settled host known before)
    (ordinary : known.Ordinary host) (given : patch.Ordinary host)
    (unmoved : p.evaluator.changed host.shelf p.comparison patch = false) :
    p.Settled host (known.learn patch) before := by
  obtain ⟨held, keeps⟩ := settled.kept
  have idle := keeps.idle given unmoved
  refine ⟨⟨held, idle⟩, fun s => ?_, settled.value⟩
  rw [← Descriptor.outcome_eq_of_alike (ordinary.learn given) keeps.ordinary idle.alike s s,
    Descriptor.outcome_eq_of_alike ordinary keeps.ordinary keeps.alike s s]
  exact settled.outcome s

/-- The value that a settled part holds tells all that it has applied. -/
theorem Settled.applied_eq {before : Option Applied} (settled : p.Settled host known before)
    {later : Knowledge} {s : σ} {a : Applied}
    (effect : p.descriptor.effect host later s = .ok (some a))
    (forms : a.value.form = p.value.form) : some a.form = before := by
  obtain ⟨exact, first, same⟩ := Descriptor.outcome_eq_ok_iff.mp (settled.outcome s)
  have value := settled.value
  rw [← same] at value ⊢
  cases exact with
  | none =>
    rw [← forms] at value
    exact absurd (Value.form_eq_unset_iff.mp value) (Descriptor.effect_ne_unset effect)
  | some b =>
    obtain ⟨v, -, cast⟩ := Descriptor.effect_cases first
    obtain ⟨w, -, also⟩ := Descriptor.effect_cases effect
    exact congrArg some (Descriptor.form_eq_of_value_form_eq also cast (forms.trans value))

/-- A part that has something to apply holds it afterwards, unless it fails. -/
theorem value_of_applied {how : Comparison} {e : Evaluator} {reaction : Reaction} {a : Applied}
    (admitted : a.value.isOrdinary = true)
    (reacted : reaction =
      if how.changed host.shelf a.value p.value then p.write e a else .settled e)
    (fine : reaction.error? = none) :
    (p.after reaction).value.form = a.value.form ∧ (p.after reaction).evaluator = e := by
  cases apart : how.changed host.shelf a.value p.value with
  | false =>
    rw [apart, if_neg Bool.false_ne_true] at reacted
    subst reacted
    exact ⟨(how.form_eq_of_unchanged host.shelf admitted apart).symm, rfl⟩
  | true =>
    rw [apart, if_pos rfl, write] at reacted
    split at reacted
    · subst reacted
      exact ⟨rfl, rfl⟩
    · subst reacted
      cases fine

/-- A settled part whose values are compared by value makes an edit exactly if its own value is
another one. -/
theorem Settled.moved_of_applied {before : Option Applied} (settled : p.Settled host known before)
    {later : Knowledge} {e : Evaluator} {reaction : Reaction} {s : σ} {a : Applied}
    (effect : p.descriptor.effect host later s = .ok (some a))
    (admitted : a.value.isOrdinary = true) (how : p.comparison = .byValue)
    (reacted : reaction =
      if p.comparison.changed host.shelf a.value p.value then p.write e a else .settled e)
    (fine : reaction.error? = none) :
    Moved (before.map Applied.edit) (some a.form.edit) reaction.edit? := by
  obtain ⟨v, -, cast⟩ := Descriptor.effect_cases effect
  rw [how] at reacted
  cases apart : Comparison.byValue.changed host.shelf a.value p.value with
  | false =>
    have forms := Comparison.byValue.form_eq_of_unchanged host.shelf admitted apart
    rw [apart, if_neg Bool.false_ne_true] at reacted
    subst reacted
    rw [← settled.applied_eq effect forms]
    exact .inl ⟨rfl, rfl⟩
  | true =>
    have new : some a.form.edit ≠ before.map Applied.edit := by
      intro same
      obtain ⟨exact, first, rfl⟩ := Descriptor.outcome_eq_ok_iff.mp (settled.outcome s)
      have value := settled.value
      cases exact with
      | none => cases same
      | some b =>
        obtain ⟨w, -, also⟩ := Descriptor.effect_cases first
        have forms := Descriptor.value_form_eq_of_edit_form_eq cast also (Option.some.inj same)
        have unmoved := (Value.differs_eq_false_iff host.shelf admitted p.value).mpr
          (forms.trans value.symm)
        rw [Comparison.changed, unmoved] at apart
        cases apart
    rw [apart, if_pos rfl, write] at reacted
    split at reacted
    · subst reacted
      rw [Descriptor.edit_form_of_byValue how cast] at new ⊢
      exact .inr ⟨new, rfl⟩
    · subst reacted
      cases fine

/-- A patch that does not make a part fail leaves it settled on all that is known then. -/
theorem Settled.react {before : Option Applied} (settled : p.Settled host known before)
    (ordinary : known.Ordinary host) (given : patch.Ordinary host) {s : σ}
    (fine : (p.react host patch s).1.error? = none) :
    ∃ after, (p.after (p.react host patch s).1).Settled host (known.learn patch) after ∧
      (p.comparison = .byValue → Moved (before.map Applied.edit) (after.map Applied.edit)
        (p.react host patch s).1.edit?) ∧
      (before ≠ none → after ≠ none) := by
  cases moved : p.evaluator.changed host.shelf p.comparison patch with
  | false =>
    rw [react_of_unchanged moved]
    exact ⟨before, settled.learn_of_unchanged ordinary given moved, fun _ => .inl ⟨rfl, rfl⟩, id⟩
  | true =>
    obtain ⟨held, keeps⟩ := settled.kept
    have reacted := react_of_changed keeps.evaluator moved s
    have outcomes (t : σ) := keeps.outcome ordinary given s t
    cases effect : p.descriptor.effect host (held.learn patch) s with
    | error error =>
      simp only [effect] at reacted
      obtain ⟨e, failed⟩ := reacted
      rw [failed] at fine
      cases fine
    | ok exact =>
      have every (t : σ) : p.descriptor.outcome host (known.learn patch) t =
          .ok (exact.map Applied.form) := by
        rw [← outcomes t, Descriptor.outcome, effect]
        rfl
      cases exact with
      | none =>
        simp only [effect] at reacted
        have never : before = none := by
          cases before with
          | none => rfl
          | some b =>
            exact absurd (every s) (Descriptor.outcome_stays ordinary given (settled.outcome s))
        subst never
        rw [reacted]
        exact ⟨none, ⟨⟨_, keeps.taken (r := .withheld _) given rfl⟩, every, settled.value⟩,
          fun _ => .inl ⟨rfl, rfl⟩, id⟩
      | some a =>
        simp only [effect] at reacted
        have admitted := Descriptor.effect_value_ordinary (keeps.ordinary.learn given) effect
        obtain ⟨value, evaluator⟩ := value_of_applied admitted reacted fine
        exact ⟨some a.form, ⟨⟨_, keeps.taken given evaluator⟩, by rwa [descriptor_after], value⟩,
          fun how => settled.moved_of_applied effect admitted how reacted fine,
          fun _ => Option.some_ne_none _⟩

end Part
end LiveTemplate
