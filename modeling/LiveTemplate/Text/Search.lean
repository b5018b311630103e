import LiveTemplate.Text.Blank

/-! Searching in a text. A search is given by what is to begin at the place sought, and yields what
lies before the first such place together with what was found there. -/
namespace LiveTemplate.Text

/-- The first place at which `found?` succeeds, the end of the text included. -/
def breakWhere? {α : Type} (found? : List Char → Option α) :
    List Char → Option (List Char × α)
  | [] => (found? []).map fun a => ([], a)
  | c :: text => match found? (c :: text) with
    | some a => some ([], a)
    | none => (breakWhere? found? text).map fun (before, a) => (c :: before, a)

/-- What lies before and behind the first occurrence of `pattern`. -/
def breakAt? (pattern text : List Char) : Option (List Char × List Char) :=
  breakWhere? (stripHead? pattern) text

/-- A found place splits the text, and `found?` succeeds there. -/
theorem exists_of_breakWhere? {α : Type} {found? : List Char → Option α} {text before : List Char}
    {a : α} (found : breakWhere? found? text = some (before, a)) :
    ∃ behind, text = before ++ behind ∧ found? behind = some a := by
  induction text generalizing before with
  | nil =>
    obtain ⟨b, here, pair⟩ := Option.map_eq_some_iff.1 found
    cases pair
    exact ⟨[], rfl, here⟩
  | cons c text ih =>
    simp only [breakWhere?] at found
    split at found
    · rename_i b here
      cases found
      exact ⟨c :: text, rfl, here⟩
    · obtain ⟨⟨b, r⟩, inner, pair⟩ := Option.map_eq_some_iff.1 found
      cases pair
      obtain ⟨behind, whole, here⟩ := ih inner
      exact ⟨behind, by simp [whole], here⟩

theorem eq_append_of_breakAt? {pattern text before behind : List Char}
    (found : breakAt? pattern text = some (before, behind)) :
    text = before ++ pattern ++ behind := by
  obtain ⟨_, whole, here⟩ := exists_of_breakWhere? found
  rw [whole, stripHead?_eq_some_iff.1 here, List.append_assoc]

theorem length_le_of_breakAt? {pattern text before behind : List Char}
    (found : breakAt? pattern text = some (before, behind)) : behind.length ≤ text.length := by
  simp [eq_append_of_breakAt? found]; omega

end LiveTemplate.Text
