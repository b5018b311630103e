import LiveTemplate.Binding
import LiveTemplate.Proofs.Placeholder.Leftmost

/-! The marks of bindings. Writing a binding's name and reading it undo each other unless the
boolean mark, which is looked for first, begins the name of a property. That happens only if one
mark begins the other; a property mark that the boolean mark begins selects nothing at all. -/
namespace LiveTemplate.BindingKind

open Text (stripHead?_append stripHead?_eq_some_iff stripHead?_eq_none_iff)

/-- The name under which a binding of that kind is written for its target. -/
def spelled (config : Config) (kind : BindingKind) (target : String) : String :=
  match kind with
  | booleanAttribute => config.booleanMark ++ target
  | property => config.propertyMark ++ target
  | _ => target

/-- The name begins with the mark. -/
def Marked (mark name : String) : Prop := mark.toList <+: name.toList

variable {config : Config} {name target : String}

theorem marked_append (mark target : String) : Marked mark (mark ++ target) := by
  simp [Marked]

theorem ofAttribute_boolean (config : Config) (target : String) :
    ofAttribute config (config.booleanMark ++ target) = (booleanAttribute, target) := by
  simp [ofAttribute, stripHead?_append]

/-- The kind of a name by its marks, the boolean one first. -/
theorem kind_ofAttribute (config : Config) (name : String) :
    (Marked config.booleanMark name ∧ (ofAttribute config name).1 = booleanAttribute) ∨
    (¬ Marked config.booleanMark name ∧ Marked config.propertyMark name ∧
      (ofAttribute config name).1 = property) ∨
    (¬ Marked config.booleanMark name ∧ ¬ Marked config.propertyMark name ∧
      ofAttribute config name = (attributeValue, name)) := by
  unfold ofAttribute
  cases flag : Text.stripHead? config.booleanMark.toList name.toList with
  | some target => exact .inl ⟨⟨target, (stripHead?_eq_some_iff.mp flag).symm⟩, rfl⟩
  | none =>
    have unflagged : ¬ Marked config.booleanMark name := stripHead?_eq_none_iff.mp flag
    cases mark : Text.stripHead? config.propertyMark.toList name.toList with
    | some target =>
      exact .inr (.inl ⟨unflagged, ⟨target, (stripHead?_eq_some_iff.mp mark).symm⟩, rfl⟩)
    | none => exact .inr (.inr ⟨unflagged, stripHead?_eq_none_iff.mp mark, rfl⟩)

theorem ofAttribute_property_iff :
    ofAttribute config (config.propertyMark ++ target) = (property, target) ↔
      ¬ Marked config.booleanMark (config.propertyMark ++ target) := by
  constructor
  · rintro read ⟨rest, whole⟩
    have taken : ofAttribute config (config.booleanMark ++ String.ofList rest) =
        (property, target) := by
      rw [← read]
      exact congrArg _ (String.toList_injective (by simpa using whole))
    rw [ofAttribute_boolean] at taken
    cases taken
  · intro unmarked
    unfold ofAttribute
    rw [stripHead?_eq_none_iff.mpr unmarked]
    simp [stripHead?_append]

theorem ofAttribute_plain_iff : ofAttribute config name = (attributeValue, name) ↔
    ¬ Marked config.booleanMark name ∧ ¬ Marked config.propertyMark name := by
  rcases kind_ofAttribute config name with
    ⟨flag, kind⟩ | ⟨noFlag, mark, kind⟩ | ⟨noFlag, noMark, read⟩
  · refine ⟨fun read => ?_, fun plain => absurd flag plain.1⟩
    rw [read] at kind
    cases kind
  · refine ⟨fun read => ?_, fun plain => absurd mark plain.2⟩
    rw [read] at kind
    cases kind
  · exact ⟨fun _ => ⟨noFlag, noMark⟩, fun _ => read⟩

/-- Reading a name gives kind and target, which spell the name again. -/
theorem spelled_ofAttribute (config : Config) (name : String) :
    spelled config (ofAttribute config name).1 (ofAttribute config name).2 = name := by
  unfold ofAttribute
  apply String.toList_injective
  cases flag : Text.stripHead? config.booleanMark.toList name.toList with
  | some target => simp [spelled, stripHead?_eq_some_iff.mp flag]
  | none =>
    cases mark : Text.stripHead? config.propertyMark.toList name.toList with
    | some target => simp [spelled, stripHead?_eq_some_iff.mp mark]
    | none => rfl

/-- No property is lost exactly if neither mark begins the other. -/
theorem properties_kept_iff (config : Config) :
    (∀ target, target ≠ "" →
        ofAttribute config (config.propertyMark ++ target) = (property, target)) ↔
      ¬ Marked config.booleanMark config.propertyMark ∧
        ¬ Marked config.propertyMark config.booleanMark := by
  simp only [ofAttribute_property_iff]
  constructor
  · intro kept
    refine ⟨fun begins => ?_, ?_⟩
    · exact kept "x" (by decide) (begins.trans (marked_append _ _))
    · -- What the boolean mark has behind the property mark is the target that is lost.
      rintro ⟨rest, whole⟩
      have longer : config.booleanMark = config.propertyMark ++ String.ofList rest :=
        String.toList_injective (by simpa using whole.symm)
      have nonempty : String.ofList rest ≠ "" := by
        intro empty
        rw [empty, String.append_empty] at longer
        exact config.marks_differ longer
      exact kept (String.ofList rest) nonempty (longer ▸ List.prefix_refl _)
  · rintro ⟨apart, other⟩ target - flag
    rcases List.prefix_or_prefix_of_prefix flag (marked_append config.propertyMark target) with
      begins | begins
    · exact apart begins
    · exact other begins

/-- Properties can be written at all exactly if the boolean mark does not begin theirs. -/
theorem properties_exist_iff (config : Config) :
    (∃ name, (ofAttribute config name).1 = property) ↔
      ¬ Marked config.booleanMark config.propertyMark := by
  constructor
  · rintro ⟨name, read⟩ begins
    rcases kind_ofAttribute config name with
      ⟨-, kind⟩ | ⟨noFlag, mark, -⟩ | ⟨-, -, plain⟩
    · rw [read] at kind
      cases kind
    · exact noFlag (begins.trans mark)
    · rw [plain] at read
      cases read
  · intro apart
    have bare : ofAttribute config (config.propertyMark ++ "") = (property, "") := by
      rwa [ofAttribute_property_iff, String.append_empty]
    exact ⟨_, congrArg Prod.fst bare⟩

/-- In every accepted configuration the boolean mark selects a flag with any target, a name with
neither mark is its own target, and the name can be spelled from what was read. The property mark
selects a property with just those targets whose name the boolean mark does not begin: with all of
them if neither mark begins the other, with none if the boolean mark begins the property mark. -/
theorem marks_select (config : Config) :
    (∀ target, ofAttribute config (config.booleanMark ++ target) = (booleanAttribute, target)) ∧
    (∀ target, ofAttribute config (config.propertyMark ++ target) = (property, target) ↔
      ¬ Marked config.booleanMark (config.propertyMark ++ target)) ∧
    (∀ name, ofAttribute config name = (attributeValue, name) ↔
      ¬ Marked config.booleanMark name ∧ ¬ Marked config.propertyMark name) ∧
    (∀ name, spelled config (ofAttribute config name).1 (ofAttribute config name).2 = name) ∧
    ((∀ target, target ≠ "" →
        ofAttribute config (config.propertyMark ++ target) = (property, target)) ↔
      ¬ Marked config.booleanMark config.propertyMark ∧
        ¬ Marked config.propertyMark config.booleanMark) ∧
    ((∃ name, (ofAttribute config name).1 = property) ↔
      ¬ Marked config.booleanMark config.propertyMark) :=
  ⟨ofAttribute_boolean config, fun _ => ofAttribute_property_iff, fun _ => ofAttribute_plain_iff,
    spelled_ofAttribute config, properties_kept_iff config, properties_exist_iff config⟩

/-- Of the marks that are looked for unless others are given, neither begins the other. -/
theorem standardMarks_select :
    ¬ Marked Config.standard.booleanMark Config.standard.propertyMark ∧
    ¬ Marked Config.standard.propertyMark Config.standard.booleanMark ∧
    ∀ target, target ≠ "" → ofAttribute Config.standard (Config.standard.propertyMark ++ target) =
      (property, target) := by
  have apart : ¬ Marked Config.standard.booleanMark Config.standard.propertyMark := by
    simp [Marked, Config.standard]
  have other : ¬ Marked Config.standard.propertyMark Config.standard.booleanMark := by
    simp [Marked, Config.standard]
  obtain ⟨-, -, -, -, kept, -⟩ := marks_select Config.standard
  exact ⟨apart, other, kept.mpr ⟨apart, other⟩⟩

/-- Marks of which the one for flags begins the one for properties. -/
def overlappingMarks : Settings := { booleanMark := "?", propertyMark := "?." }

/-- These marks are accepted, and what is written as a property is read as a flag. -/
theorem flag_taken_for_property : ∃ config, Config.ofSettings overlappingMarks = .ok config ∧
    config.propertyMark ++ "items" = "?.items" ∧
    ofAttribute config "?.items" = (booleanAttribute, ".items") ∧
    ofAttribute config "?.items" ≠ (property, "items") := by
  refine ⟨{ Config.standard with
    propertyMark := "?.", propertyMark_ne := by decide, marks_differ := by decide }, rfl, rfl, ?_⟩
  exact ⟨by decide, by decide⟩

end LiveTemplate.BindingKind
