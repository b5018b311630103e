import LiveTemplate.Value.Display
import LiveTemplate.Value.Equality

/-! Values without regard to which number or string object they are. Neither a truth test nor the
text of a value tells such objects apart, and where values are compared as values, those of plain
types count as changed exactly if this form of them changes. -/
namespace LiveTemplate.Value

variable {shelf : Shelf} {v w : Value}

/-- The value with the one object for a number or string that all share. -/
def form : Value → Value
  | scalar _ s => scalar none s
  | v => v

@[simp] theorem form_form (v : Value) : v.form.form = v.form := by cases v <;> rfl

@[simp] theorem typeName_form (v : Value) : v.form.typeName = v.typeName := by cases v <;> rfl

@[simp] theorem truth?_form (shelf : Shelf) (v : Value) : v.form.truth? shelf = v.truth? shelf := by
  cases v <;> rfl

@[simp] theorem display_form (shelf : Shelf) (v : Value) :
    v.form.display shelf = v.display shelf := by
  cases v with
  | scalar id s => cases s <;> rfl
  | _ => rfl

@[simp] theorem form_eq_unset_iff : v.form = .unset ↔ v = .unset := by
  cases v <;> simp [form]

theorem truth?_eq_of_form (forms : v.form = w.form) : v.truth? shelf = w.truth? shelf := by
  rw [← truth?_form, forms, truth?_form]

theorem display_eq_of_form (forms : v.form = w.form) : v.display shelf = w.display shelf := by
  rw [← display_form, forms, display_form]

/-- Values that hold no others, compared as they are told apart. -/
def isPlain : Value → Bool
  | null | bool _ | scalar _ (.int _) | scalar _ (.str _) => true
  | _ => false

def isOrdinary : Value → Bool
  | function _ => true
  | v => v.isPlain

theorem ne_unset_of_ordinary (ordinary : v.isOrdinary = true) : v ≠ .unset := by
  rintro rfl
  cases ordinary

theorem ordinary_of_plain (plain : v.isPlain = true) : v.isOrdinary = true := by
  cases v <;> first | exact plain | cases plain

@[simp] theorem isPlain_form (v : Value) : v.form.isPlain = v.isPlain := by
  cases v with
  | scalar id s => cases s <;> rfl
  | _ => rfl

@[simp] theorem isOrdinary_form (v : Value) : v.form.isOrdinary = v.isOrdinary := by
  cases v with
  | scalar id s => cases s <;> rfl
  | _ => rfl

theorem form_eq_of_same (ordinary : v.isOrdinary = true) (same : v.same w = true) :
    v.form = w.form := by
  cases v with
  | null | bool _ | scalar _ _ | function _ => cases w <;> simp_all [Value.same, form]
  | _ => cases ordinary

/-- Ordinary values of one type are equal only if they have one form. -/
theorem equal_eq_true_iff (shelf : Shelf) (ordinary : v.isOrdinary = true)
    (types : v.typeName = w.typeName) : equal shelf v w = true ↔ v.form = w.form := by
  have deep : nestingLimit = 979 + 1 := rfl
  rw [equal, deep]
  cases v with
  | null =>
    cases w with
    | scalar id s => exact absurd types.symm (Scalar.typeName_ne (by simp [typeName]) s)
    | _ => simp_all [equalWithin, listItems?, equalPlain, quantity?, form, same, typeName]
  | bool a =>
    cases w with
    | bool b =>
      cases a <;> cases b <;>
        simp [equalWithin, listItems?, equalPlain, quantity?, Quantity.equals, Quantity.ofInt, form]
    | scalar id s => exact absurd types.symm (Scalar.typeName_ne (by simp [typeName]) s)
    | _ => simp [typeName] at types
  | scalar id s =>
    cases w with
    | scalar other t =>
      cases s <;> cases t <;> simp [typeName, Scalar.typeName] at types <;>
        first | (cases ordinary; done) | skip
      · simp [equalWithin, listItems?, equalPlain, quantity?, Quantity.ofInt, Quantity.equals, form]
      · simp [equalWithin, listItems?, equalPlain, quantity?, form]
    | _ => exact absurd types (Scalar.typeName_ne (by simp [typeName]) s)
  | function name =>
    cases w with
    | scalar id s => exact absurd types.symm (Scalar.typeName_ne (by simp [typeName]) s)
    | _ => simp_all [equalWithin, listItems?, equalPlain, quantity?, form, same, typeName]
  | _ => cases ordinary

theorem differs_eq_false_iff (shelf : Shelf) (ordinary : v.isOrdinary = true) (w : Value) :
    differs shelf v w = false ↔ v.form = w.form := by
  have direct : unequal shelf v w = !equal shelf v w := by
    cases v with
    | object i o => cases ordinary
    | _ => rfl
  unfold differs
  by_cases same : v.same w = true
  · simp [same, form_eq_of_same ordinary same]
  · by_cases types : v.typeName = w.typeName
    · simp [same, types, direct, ← equal_eq_true_iff shelf ordinary types]
    · have apart : v.form ≠ w.form := fun forms => types (by
        rw [← typeName_form, forms, typeName_form])
      simp [same, types, apart]

end LiveTemplate.Value
