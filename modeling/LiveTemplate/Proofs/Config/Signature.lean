import LiveTemplate.Config

/-! What signatures tell of configurations. The fields stand in a signature with a separator between
them, and nothing marks a separator that belongs to a field. So a signature gives the fields back
only together with the number of separators in each. -/
namespace LiveTemplate

namespace Config

/-- The unit separator. -/
def separator : Char := '\x1f'

/-- How many separators each of the free fields holds. -/
def separators (c : Config) : List Nat :=
  [c.opening, c.closing, c.booleanMark, c.propertyMark].map (·.toList.count separator)

def strictness (c : Config) : String := if c.strict then "True" else "False"

theorem toList_signature (c : Config) : c.signature.toList =
    c.opening.toList ++ separator :: (c.closing.toList ++ separator :: (c.booleanMark.toList ++
      separator :: (c.propertyMark.toList ++ separator :: c.strictness.toList))) := by
  simp [signature, strictness, separator]

theorem strict_of_strictness {c d : Config} (same : c.strictness.toList = d.strictness.toList) :
    c.strict = d.strict := by
  unfold strictness at same
  cases left : c.strict <;> cases right : d.strict <;> simp_all

/-- Before the same number of separators stands the same. -/
theorem append_cons_inj {mark : Char} {a b x y : List Char}
    (joined : a ++ mark :: x = b ++ mark :: y) (level : a.count mark = b.count mark) :
    a = b ∧ x = y := by
  induction a generalizing b with
  | nil =>
    cases b with
    | nil => exact ⟨rfl, (List.cons.inj joined).2⟩
    | cons d b =>
      obtain ⟨rfl, -⟩ := List.cons.inj joined
      simp at level
  | cons c a ih =>
    cases b with
    | nil =>
      obtain ⟨rfl, -⟩ := List.cons.inj joined
      simp at level
    | cons d b =>
      obtain ⟨rfl, rest⟩ := List.cons.inj joined
      rw [List.count_cons, List.count_cons, Nat.add_right_cancel_iff] at level
      obtain ⟨rfl, rfl⟩ := ih rest level
      exact ⟨rfl, rfl⟩

/-- A signature and the number of separators in each field make out the configuration. -/
theorem eq_of_signature {c d : Config} (same : c.signature = d.signature)
    (level : c.separators = d.separators) : c = d := by
  have joined := congrArg String.toList same
  rw [toList_signature, toList_signature] at joined
  simp only [separators, List.map_cons, List.map_nil, List.cons.injEq, and_true] at level
  obtain ⟨inOpening, inClosing, inBoolean, inProperty⟩ := level
  obtain ⟨opening, joined⟩ := append_cons_inj joined inOpening
  obtain ⟨closing, joined⟩ := append_cons_inj joined inClosing
  obtain ⟨boolean, joined⟩ := append_cons_inj joined inBoolean
  obtain ⟨property, strictness⟩ := append_cons_inj joined inProperty
  have strict := strict_of_strictness strictness
  cases c
  cases d
  simp only [Config.mk.injEq]
  exact ⟨String.toList_injective opening, String.toList_injective closing,
    String.toList_injective boolean, String.toList_injective property, strict⟩

end Config
end LiveTemplate
