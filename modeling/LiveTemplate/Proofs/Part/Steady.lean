import LiveTemplate.Proofs.Node.Properties
import LiveTemplate.Proofs.Part.Effect
import LiveTemplate.Proofs.Value.Cast

/-! Steady functions. A function may make a new object for each answer; as long as its answers to
the same arguments look alike, what a binding shows does not depend on when it asks. -/
namespace LiveTemplate

/-- Values that no reader tells apart, and neither of which is the marker for no value unless both
are. -/
structure Value.LooksLike (shelf : Shelf) (v w : Value) : Prop where
  truth : v.truth? shelf = w.truth? shelf
  display : v.display shelf = w.display shelf
  unset : v = .unset ↔ w = .unset

/-- Values that look alike, or one error. -/
inductive AnswersAlike (shelf : Shelf) : Except Error Value → Except Error Value → Prop where
  | ok {v w : Value} : v.LooksLike shelf w → AnswersAlike shelf (.ok v) (.ok w)
  | error (error : Error) : AnswersAlike shelf (.error error) (.error error)

/-- A function whose answers to the same arguments look alike, whatever the host's state. -/
def Host.Steady {σ : Type} (host : Host σ) (function : String) : Prop :=
  ∀ vs s t, AnswersAlike host.shelf (host.call function vs s).1 (host.call function vs t).1

theorem Value.LooksLike.refl (shelf : Shelf) (v : Value) : v.LooksLike shelf v :=
  ⟨rfl, rfl, .rfl⟩

/-- A function that always gives the very same answers is steady. -/
theorem Host.steady_of_eq {σ : Type} {host : Host σ} {function : String}
    (same : ∀ vs s t, (host.call function vs s).1 = (host.call function vs t).1) :
    host.Steady function := by
  intro vs s t
  rw [same vs s t]
  cases (host.call function vs t).1 with
  | error error => exact .error error
  | ok v => exact .ok (.refl host.shelf v)

namespace Expression

variable {σ : Type} {host : Host σ} {known : Knowledge}

/-- Values of an expression at two times: none, one error, or two that look alike. -/
theorem value_of_steady
    (steady : ∀ key name, known key = some (.function name) → host.Steady name) (text : String)
    (s t : σ) :
    value host known text s = value host known text t ∨
      ∃ v w, value host known text s = .ok (some v) ∧ value host known text t = .ok (some w) ∧
        v.LooksLike host.shelf w := by
  unfold value
  cases Source.parse text with
  | key name => exact .inl rfl
  | call function parameters =>
    dsimp only
    cases given : known function with
    | none => exact .inl rfl
    | some callee =>
      cases callee with
      | function name =>
        have answers :=
          steady function name given (parameters.map fun p => (known p).getD .null) s t
        simp only [Option.bind_some, Value.present?]
        generalize (host.call name _ s).1 = first at answers ⊢
        generalize (host.call name _ t).1 = second at answers ⊢
        cases answers with
        | error error => exact .inl rfl
        | @ok v w alike =>
          by_cases missing : v = .unset
          · obtain rfl := missing
            obtain rfl := alike.unset.mp rfl
            exact .inl rfl
          · have present : w ≠ .unset := fun none => missing (alike.unset.mpr none)
            exact .inr ⟨v, w, congrArg Except.ok (Value.present?_eq_some missing),
              congrArg Except.ok (Value.present?_eq_some present), alike⟩
      | _ => exact .inl rfl

end Expression

namespace Descriptor

variable {σ : Type} {host : Host σ} {known : Knowledge}

/-- What a binding shows of what it applies: nothing of a property. -/
def visible (applied : Option Applied) : Option Edit :=
  (applied.map Applied.edit).bind Edit.visible?

theorem cast_of_alike {shelf : Shelf} {v w : Value} (alike : v.LooksLike shelf w) (d : Descriptor) :
    (d.cast shelf v).map (visible ∘ some) = (d.cast shelf w).map (visible ∘ some) := by
  by_cases property : d.kind = .property
  · rw [cast_property property, cast_property property]
    rfl
  · rw [cast_congr property alike.truth alike.display]

theorem visible_of_steady
    (steady : ∀ key name, known key = some (.function name) → host.Steady name) (d : Descriptor)
    (s t : σ) : (d.effect host known s).map visible = (d.effect host known t).map visible := by
  unfold effect
  rcases Expression.value_of_steady steady d.expression s t with same | ⟨v, w, first, second, alike⟩
  · rw [same]
  · have casts := cast_of_alike alike d
    rw [first, second]
    dsimp only
    generalize d.cast host.shelf v = left at casts ⊢
    generalize d.cast host.shelf w = right at casts ⊢
    cases left <;> cases right <;> exact casts

end Descriptor
end LiveTemplate
