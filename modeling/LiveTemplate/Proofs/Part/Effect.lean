import LiveTemplate.Part
import LiveTemplate.Proofs.Expression.Knowledge

/-! What a patch does to a part, told by the value of its expression for all that is known. The
first patch that gives a part a value makes it write; later ones only do if the cast value moves. -/
namespace LiveTemplate

/-- What a binding is to apply for all that is known; nothing while its expression has no value. -/
def Descriptor.effect {σ : Type} (host : Host σ) (known : Knowledge) (d : Descriptor) (s : σ) :
    Except Error (Option Applied) :=
  match Expression.value host known d.expression s with
  | .ok (some v) => (d.cast host.shelf v).map some
  | .ok none => .ok none
  | .error error => .error error

namespace Part

@[simp] theorem descriptor_after (p : Part) (r : Reaction) :
    (p.after r).descriptor = p.descriptor := by cases r <;> rfl

@[simp] theorem path_after (p : Part) (r : Reaction) : (p.after r).path = p.path := by
  cases r <;> rfl

@[simp] theorem nodeType_after (p : Part) (r : Reaction) : (p.after r).nodeType = p.nodeType := by
  cases r <;> rfl

@[simp] theorem comparison_after (p : Part) (r : Reaction) :
    (p.after r).comparison = p.comparison := by
  simp [comparison]

/-- As it is made for a binding. -/
def Fresh (p : Part) : Prop := p = .ofDescriptor p.path p.nodeType p.descriptor

theorem react_of_unchanged {σ : Type} {host : Host σ} {patch : Patch} {p : Part}
    (unmoved : p.evaluator.changed host.shelf p.comparison patch = false) (s : σ) :
    p.react host patch s = (.idle, s) := by
  simp [react, unmoved]

/-- A patch that cannot be taken in is rejected, whenever it comes. -/
theorem react_of_rejected {σ : Type} {host : Host σ} {patch : Patch} {p : Part} {error : Error}
    (moved : p.evaluator.changed host.shelf p.comparison patch = true)
    (rejected : p.evaluator.absorb patch = .error error) (s : σ) :
    p.react host patch s = (.failed p.evaluator error, s) := by
  simp [react, moved, Evaluator.get, rejected]

/-- A part that takes a patch in evaluates it and settles the raw value. -/
theorem react_of_absorbed {σ : Type} {host : Host σ} {patch : Patch} {p : Part} {taken : Evaluator}
    (moved : p.evaluator.changed host.shelf p.comparison patch = true)
    (absorbed : p.evaluator.absorb patch = .ok taken) (s : σ) :
    p.react host patch s = (match (taken.value host s).1 with
      | .ok raw => p.settle host.shelf taken raw
      | .error error => .failed taken error, (taken.value host s).2) := by
  simp only [react, moved, if_true, Evaluator.get, absorbed]
  rcases taken.value host s with ⟨error | raw, t⟩ <;> rfl

/-- Whatever becomes of a raw value, the part keeps what its evaluator took in. -/
theorem evaluator_after_settle (shelf : Shelf) (p : Part) (e : Evaluator) (raw : Value) :
    (p.after (p.settle shelf e raw)).evaluator = e := by
  unfold settle write
  repeat' split
  all_goals rfl

/-- What a part may do: nothing, reject the patch, fail with its function, or settle a raw value. In
the last two cases its evaluator has taken the patch in. -/
theorem react_cases {σ : Type} (host : Host σ) (patch : Patch) (p : Part) (s : σ) :
    (p.evaluator.changed host.shelf p.comparison patch = false ∧
      p.react host patch s = (.idle, s)) ∨
    (p.evaluator.changed host.shelf p.comparison patch = true ∧
      ((∃ error, p.evaluator.absorb patch = .error error ∧
          (p.react host patch s).1 = .failed p.evaluator error) ∨
        ∃ taken, p.evaluator.absorb patch = .ok taken ∧
          ((∃ error, (p.react host patch s).1 = .failed taken error) ∨
            ∃ raw, (p.react host patch s).1 = p.settle host.shelf taken raw))) := by
  cases moved : p.evaluator.changed host.shelf p.comparison patch with
  | false => exact .inl ⟨rfl, react_of_unchanged moved s⟩
  | true =>
    refine .inr ⟨rfl, ?_⟩
    cases absorbed : p.evaluator.absorb patch with
    | error error => exact .inl ⟨error, rfl, by rw [react_of_rejected moved absorbed]⟩
    | ok taken =>
      refine .inr ⟨taken, rfl, ?_⟩
      rw [react_of_absorbed moved absorbed]
      rcases taken.value host s with ⟨error | raw, t⟩
      · exact .inl ⟨error, rfl⟩
      · exact .inr ⟨raw, rfl⟩

/-- A part whose expression a patch could alter does not stay idle. -/
theorem react_ne_idle {σ : Type} {host : Host σ} {patch : Patch} {p : Part}
    (moved : p.evaluator.changed host.shelf p.comparison patch = true) (s : σ) :
    (p.react host patch s).1 ≠ .idle := by
  rcases react_cases host patch p s with
    ⟨unmoved, -⟩ | ⟨-, ⟨error, -, failed⟩ | ⟨taken, -, ⟨error, failed⟩ | ⟨raw, settled⟩⟩⟩
  · rw [moved] at unmoved
    cases unmoved
  · rw [failed]
    exact Reaction.noConfusion
  · rw [failed]
    exact Reaction.noConfusion
  · rw [settled]
    unfold settle write
    repeat' split
    all_goals exact Reaction.noConfusion

/-- A patch is either taken in whole or not at all. -/
theorem evaluator_after_react {σ : Type} {host : Host σ} {known : Knowledge} {patch : Patch}
    {p : Part} (kept : p.evaluator = .knowing known p.descriptor.expression) (s : σ) :
    (p.after (p.react host patch s).1).evaluator = .knowing known p.descriptor.expression ∨
      (p.after (p.react host patch s).1).evaluator =
        .knowing (known.learn patch) p.descriptor.expression := by
  rcases react_cases host patch p s with
    ⟨-, idle⟩ | ⟨moved, ⟨error, -, rejected⟩ | ⟨taken, absorbed, reacted⟩⟩
  · rw [idle]
    exact .inl kept
  · rw [rejected]
    exact .inl kept
  · right
    rw [kept] at moved absorbed
    rw [← Evaluator.eq_knowing_of_absorbed moved absorbed]
    rcases reacted with ⟨error, failed⟩ | ⟨raw, settled⟩
    · rw [failed]; rfl
    · rw [settled, evaluator_after_settle]

/-- A part whose expression a patch could alter fails with it, waits for it or compares its cast
value with the one applied last. -/
theorem react_of_changed {σ : Type} {host : Host σ} {known : Knowledge} {patch : Patch} {p : Part}
    (kept : p.evaluator = .knowing known p.descriptor.expression)
    (moved : p.evaluator.changed host.shelf p.comparison patch = true) (s : σ) :
    match p.descriptor.effect host (known.learn patch) s with
    | .error error => ∃ e, (p.react host patch s).1 = .failed e error
    | .ok none =>
      (p.react host patch s).1 = .withheld (.knowing (known.learn patch) p.descriptor.expression)
    | .ok (some applied) => (p.react host patch s).1 =
      if p.comparison.changed host.shelf applied.value p.value then
        p.write (.knowing (known.learn patch) p.descriptor.expression) applied
      else .settled (.knowing (known.learn patch) p.descriptor.expression) := by
  have reaction : (p.react host patch s).1 = match (p.evaluator.get host patch s).1 with
      | .ok raw => p.settle host.shelf (p.evaluator.get host patch s).2.1 raw
      | .error error => .failed (p.evaluator.get host patch s).2.1 error := by
    simp only [react, moved, if_true]
    rcases p.evaluator.get host patch s with ⟨_ | _, _, _⟩ <;> rfl
  rw [kept] at moved reaction
  obtain ⟨result, takenIn⟩ := Evaluator.get_of_changed host moved s
  rw [reaction, result]
  unfold Descriptor.effect
  cases evaluated : Expression.value host (known.learn patch) p.descriptor.expression s with
  | error error => exact ⟨_, rfl⟩
  | ok present =>
    rw [takenIn present evaluated]
    cases present with
    | none => rfl
    | some v =>
      have given : isUnset v = false := by
        cases v <;> first | rfl | exact absurd rfl (Expression.value_ne_unset evaluated)
      simp only [Except.map, settle, Option.getD_some, given]
      cases p.descriptor.cast host.shelf v with
      | error error => exact ⟨_, rfl⟩
      | ok applied => rfl

end Part

namespace Value

theorem differs_unset {shelf : Shelf} {v : Value} (given : v ≠ .unset) :
    differs shelf v .unset = true := by
  cases v <;> first | exact absurd rfl given | simp [differs, same, typeName]

end Value

/-- Whatever is given counts as a change from no value. -/
theorem Comparison.changed_unset {how : Comparison} {shelf : Shelf} {v : Value}
    (given : v ≠ .unset) : how.changed shelf v .unset = true := by
  cases how with
  | byValue => exact Value.differs_unset given
  | byIdentity => cases v <;> first | exact absurd rfl given | rfl

theorem Evaluator.unmoved_unset {how : Comparison} {shelf : Shelf} {patch : Patch} {key : String}
    (unmoved : moves (how.changed shelf) patch key .unset = false) :
    (patch.find? key).bind Value.present? = none := by
  unfold moves at unmoved
  cases given : patch.find? key with
  | none => rfl
  | some v =>
    rw [given] at unmoved
    by_cases missing : v = .unset
    · subst missing; rfl
    · simp [Comparison.changed_unset missing] at unmoved

/-- An expression that a first patch cannot alter has no value under that patch. -/
theorem Evaluator.value_of_unchanged_fresh {σ : Type} {host : Host σ} {how : Comparison}
    {patch : Patch} {text : String}
    (unmoved : (ofSource text).changed host.shelf how patch = false) (s : σ) :
    Expression.value host (Knowledge.nothing.learn patch) text s = .ok none := by
  unfold ofSource at unmoved
  unfold Expression.value
  rw [Knowledge.learn_nothing]
  cases parsed : Expression.Source.parse text with
  | key name =>
    simp only [parsed, ofKey, changed] at unmoved
    simp [unmoved_unset unmoved]
  | call function parameters =>
    simp only [parsed, ofCall, changed, Bool.or_eq_false_iff] at unmoved
    have callee : moves (Comparison.byValue.changed host.shelf) patch function .unset = false :=
      unmoved.2
    simp [unmoved_unset callee]

theorem ok_of_map_eq_ok {α β : Type} {f : α → β} {result : Except Error α} {b : β}
    (mapped : result.map f = .ok b) : ∃ a, result = .ok a ∧ f a = b := by
  cases result with
  | error error => cases mapped
  | ok a => exact ⟨a, rfl, Except.ok.inj mapped⟩

namespace Descriptor

/-- The forms in which a binding can apply a value. -/
theorem cast_cases {shelf : Shelf} {d : Descriptor} {v : Value} {applied : Applied}
    (cast : d.cast shelf v = .ok applied) :
    (d.kind = .text ∧ ∃ s, castText shelf v = .ok s ∧ applied = ⟨.str s, .setText s⟩) ∨
    (d.kind = .attributeValue ∧ ∃ s, castText shelf v = .ok s ∧
      applied = ⟨.str s, .setAttribute d.name s⟩) ∨
    (d.kind = .booleanAttribute ∧ ∃ b, castFlag shelf v = .ok b ∧
      applied = ⟨.bool b, .toggleAttribute d.name b⟩) ∨
    (d.kind = .property ∧ applied = ⟨v, .setProperty d.name v⟩) := by
  unfold Descriptor.cast at cast
  cases kind : d.kind with
  | text =>
    rw [kind] at cast
    obtain ⟨s, done, rfl⟩ := ok_of_map_eq_ok cast
    exact .inl ⟨rfl, s, done, rfl⟩
  | attributeValue =>
    rw [kind] at cast
    obtain ⟨s, done, rfl⟩ := ok_of_map_eq_ok cast
    exact .inr (.inl ⟨rfl, s, done, rfl⟩)
  | booleanAttribute =>
    rw [kind] at cast
    obtain ⟨b, done, rfl⟩ := ok_of_map_eq_ok cast
    exact .inr (.inr (.inl ⟨rfl, b, done, rfl⟩))
  | property =>
    rw [kind] at cast
    cases cast
    exact .inr (.inr (.inr ⟨rfl, rfl⟩))
  | other name =>
    rw [kind] at cast
    cases cast

theorem cast_ne_unset {shelf : Shelf} {d : Descriptor} {v : Value} {applied : Applied}
    (given : v ≠ .unset) (cast : d.cast shelf v = .ok applied) : applied.value ≠ .unset := by
  rcases cast_cases cast with ⟨-, s, -, rfl⟩ | ⟨-, s, -, rfl⟩ | ⟨-, b, -, rfl⟩ | ⟨-, rfl⟩
  · exact Value.noConfusion
  · exact Value.noConfusion
  · exact Value.noConfusion
  · exact given

/-- What is applied comes from a value of the expression. -/
theorem effect_cases {σ : Type} {host : Host σ} {known : Knowledge} {d : Descriptor} {s : σ}
    {applied : Applied} (effect : d.effect host known s = .ok (some applied)) :
    ∃ v, Expression.value host known d.expression s = .ok (some v) ∧
      d.cast host.shelf v = .ok applied := by
  unfold Descriptor.effect at effect
  split at effect
  · rename_i v evaluated
    obtain ⟨a, cast, same⟩ := ok_of_map_eq_ok effect
    cases same
    exact ⟨v, evaluated, cast⟩
  · cases effect
  · cases effect

theorem effect_ne_unset {σ : Type} {host : Host σ} {known : Knowledge} {d : Descriptor} {s : σ}
    {applied : Applied} (effect : d.effect host known s = .ok (some applied)) :
    applied.value ≠ .unset := by
  obtain ⟨v, evaluated, cast⟩ := effect_cases effect
  exact cast_ne_unset (Expression.value_ne_unset evaluated) cast

end Descriptor

/-- On its first patch a part fails with its expression, does nothing if that has no value, and
otherwise applies it. -/
theorem Part.react_fresh {σ : Type} (host : Host σ) (patch : Patch) (path : Path)
    (type : NodeType) (d : Descriptor) (s : σ) :
    match d.effect host (Knowledge.nothing.learn patch) s with
    | .error error => ∃ e, ((ofDescriptor path type d).react host patch s).1 = .failed e error
    | .ok none =>
      ((ofDescriptor path type d).react host patch s).1.edit? = none ∧
      ((ofDescriptor path type d).react host patch s).1.error? = none
    | .ok (some applied) => ∃ e,
      ((ofDescriptor path type d).react host patch s).1 =
        (ofDescriptor path type d).write e applied := by
  have kept : (ofDescriptor path type d).evaluator = .knowing .nothing d.expression :=
    Evaluator.ofSource_eq_knowing d.expression
  cases moved : (ofDescriptor path type d).evaluator.changed host.shelf
      (ofDescriptor path type d).comparison patch with
  | false =>
    have none : d.effect host (Knowledge.nothing.learn patch) s = .ok none := by
      unfold Descriptor.effect
      rw [Evaluator.value_of_unchanged_fresh moved s]
    rw [react_of_unchanged moved, none]
    exact ⟨rfl, rfl⟩
  | true =>
    have reacted := react_of_changed kept moved s
    cases effect : d.effect host (Knowledge.nothing.learn patch) s with
    | error error =>
      rwa [show (ofDescriptor path type d).descriptor = d from rfl, effect] at reacted
    | ok applied? =>
      rw [show (ofDescriptor path type d).descriptor = d from rfl, effect] at reacted
      cases applied? with
      | none => exact ⟨by rw [reacted]; rfl, by rw [reacted]; rfl⟩
      | some applied =>
        have first : (ofDescriptor path type d).comparison.changed host.shelf applied.value .unset =
            true := Comparison.changed_unset (Descriptor.effect_ne_unset effect)
        exact ⟨_, reacted.trans (if_pos first)⟩

end LiveTemplate
