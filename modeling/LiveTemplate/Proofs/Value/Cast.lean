import LiveTemplate.Binding

/-! What the casts are. Text stands for what a true value displays, and for nothing where the value
is false; a flag is the truth of its value. A value that refuses the truth test has neither. -/
namespace LiveTemplate

namespace Value

/-- The truth of a value, which a host object may refuse to tell. -/
def tested (shelf : Shelf) (v : Value) : Except Error Bool :=
  (v.truth? shelf).elim (.error .noTruthValue) .ok

/-- What is to be read where a value stands: its display if it is true, else nothing. -/
def readable (shelf : Shelf) (v : Value) : Except Error String := do
  if ← v.tested shelf then v.display shelf else return ""

theorem readable_of_true {shelf : Shelf} {v : Value} (holds : v.truth? shelf = some true) :
    v.readable shelf = v.display shelf := by
  rw [readable, tested, holds]
  rfl

theorem readable_of_false {shelf : Shelf} {v : Value} (fails : v.truth? shelf = some false) :
    v.readable shelf = .ok "" := by
  rw [readable, tested, fails]
  rfl

theorem readable_of_refused {shelf : Shelf} {v : Value} (refuses : v.truth? shelf = none) :
    v.readable shelf = .error .noTruthValue := by
  rw [readable, tested, refuses]
  rfl

end Value

namespace Descriptor

variable {shelf : Shelf}

theorem castText_eq_readable (v : Value) : castText shelf v = v.readable shelf := by
  unfold castText
  cases truth : v.truth? shelf with
  | none => exact (Value.readable_of_refused truth).symm
  | some b =>
    cases b with
    | true => exact (Value.readable_of_true truth).symm
    | false => exact (Value.readable_of_false truth).symm

theorem castFlag_eq_tested (v : Value) : castFlag shelf v = v.tested shelf := by
  unfold castFlag Value.tested
  cases v.truth? shelf <;> rfl

/-- Only a property is given the object itself. -/
theorem cast_property {d : Descriptor} (kind : d.kind = .property) (v : Value) :
    d.cast shelf v = .ok ⟨v, .setProperty d.name v⟩ := by
  rw [cast, kind]

/-- The other bindings cast values of one truth and one display to the same. -/
theorem cast_congr {d : Descriptor} {v w : Value} (other : d.kind ≠ .property)
    (truth : v.truth? shelf = w.truth? shelf) (display : v.display shelf = w.display shelf) :
    d.cast shelf v = d.cast shelf w := by
  have text : castText shelf v = castText shelf w := by
    rw [castText, castText, truth, display]
  have flag : castFlag shelf v = castFlag shelf w := by
    rw [castFlag, castFlag, truth]
  cases kind : d.kind with
  | text | attributeValue => simp only [cast, kind, text]
  | booleanAttribute => simp only [cast, kind, flag]
  | property => exact absurd kind other
  | other => simp only [cast, kind]

/-- The edit by which a binding shows a value. -/
def editFor (shelf : Shelf) (d : Descriptor) (v : Value) : Except Error Edit :=
  match d.kind with
  | .text => (v.readable shelf).map .setText
  | .attributeValue => (v.readable shelf).map (.setAttribute d.name)
  | .booleanAttribute => (v.tested shelf).map (.toggleAttribute d.name)
  | .property => .ok (.setProperty d.name v)
  | .other name => .error (.unimplementedKind name)

/-- A binding casts a value for the edit that shows it. -/
theorem map_edit_cast (d : Descriptor) (v : Value) :
    (d.cast shelf v).map Applied.edit = d.editFor shelf v := by
  unfold cast editFor
  cases d.kind with
  | text => rw [castText_eq_readable]; cases v.readable shelf <;> rfl
  | attributeValue => rw [castText_eq_readable]; cases v.readable shelf <;> rfl
  | booleanAttribute => rw [castFlag_eq_tested]; cases v.tested shelf <;> rfl
  | property | other => rfl

end Descriptor
end LiveTemplate
