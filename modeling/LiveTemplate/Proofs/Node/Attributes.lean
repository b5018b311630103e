import LiveTemplate.Node.Basic
import Mathlib.Data.List.Nodup

/-! Attributes under distinct names. Taken one by one, each of them is new, so the rule that the
first of several counts leaves them as they are. -/
namespace LiveTemplate

namespace Attributes

/-- Every name occurs once. -/
def Keyed (attributes : Attributes) : Prop := (attributes.map Prod.fst).Nodup

instance (attributes : Attributes) : Decidable attributes.Keyed :=
  inferInstanceAs (Decidable (List.Nodup _))

end Attributes

namespace Entries

variable {κ α : Type} [DecidableEq κ]

theorem has_eq_true_iff {key : κ} {entries : Entries κ α} :
    entries.has key = true ↔ key ∈ entries.map Prod.fst := by
  induction entries with
  | nil => simp [has, find?]
  | cons entry rest ih =>
    obtain ⟨other, value⟩ := entry
    by_cases same : other = key
    · simp [has, find?, same]
    · simpa [has, find?, same, Ne.symm same] using ih

theorem setIfAbsent_of_notMem {key : κ} {entries : Entries κ α} (value : α)
    (absent : key ∉ entries.map Prod.fst) :
    entries.setIfAbsent key value = entries ++ [(key, value)] := by
  rw [setIfAbsent, if_neg (mt has_eq_true_iff.1 absent)]

/-- A key is added as it is to a list without repetitions. -/
theorem keys_setIfAbsent [BEq κ] [LawfulBEq κ] {key : κ} {entries : Entries κ α} (value : α)
    {keys : List κ} (distinct : entries.map Prod.fst = keys.eraseDups) :
    (entries.setIfAbsent key value).map Prod.fst = (keys ++ [key]).eraseDups := by
  have member : key ∈ entries.map Prod.fst ↔ key ∈ keys := by
    rw [distinct, List.mem_eraseDups]
  rw [List.eraseDups_append, ← distinct, List.removeAll]
  by_cases present : key ∈ entries.map Prod.fst
  · rw [setIfAbsent, if_pos (has_eq_true_iff.2 present)]
    simp [member.mp present]
  · rw [setIfAbsent_of_notMem value present, List.map_append]
    simp [mt member.mpr present, List.eraseDups_cons]

theorem foldl_setIfAbsent (kept entries : Entries κ α)
    (distinct : ((kept ++ entries).map Prod.fst).Nodup) :
    entries.foldl (fun kept entry => kept.setIfAbsent entry.1 entry.2) kept = kept ++ entries := by
  induction entries generalizing kept with
  | nil => simp
  | cons entry rest ih =>
    have absent : entry.1 ∉ kept.map Prod.fst := by
      rw [List.map_append, List.map_cons, List.nodup_middle, List.nodup_cons] at distinct
      exact fun member => distinct.1 (List.mem_append_left _ member)
    rw [List.foldl_cons, setIfAbsent_of_notMem _ absent, ih, List.append_assoc]
    · rfl
    · rwa [List.append_assoc]

end Entries
end LiveTemplate
