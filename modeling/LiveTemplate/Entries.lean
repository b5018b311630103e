/-! Keyed entries in the order in which their keys came. Overwriting a key keeps its place; a key
that was removed comes back at the end. -/
namespace LiveTemplate

abbrev Entries (κ : Type) (α : Type) := List (κ × α)

namespace Entries

variable {κ α : Type} [DecidableEq κ]

def find? (key : κ) : Entries κ α → Option α
  | [] => none
  | (other, value) :: rest => if other = key then some value else find? key rest

def has (key : κ) (entries : Entries κ α) : Bool := (entries.find? key).isSome

/-- The first key with a value. -/
def keyOf? [DecidableEq α] (value : α) : Entries κ α → Option κ
  | [] => none
  | (key, other) :: rest => if other = value then some key else keyOf? value rest

def keys (entries : Entries κ α) : List κ := entries.map (·.1)

def set (key : κ) (value : α) : Entries κ α → Entries κ α
  | [] => [(key, value)]
  | (other, old) :: rest =>
    if other = key then (other, value) :: rest else (other, old) :: set key value rest

def erase (key : κ) : Entries κ α → Entries κ α
  | [] => []
  | (other, value) :: rest =>
    if other = key then erase key rest else (other, value) :: erase key rest

/-- A key that is present keeps its value. -/
def setIfAbsent (key : κ) (value : α) (entries : Entries κ α) : Entries κ α :=
  if entries.has key then entries else entries ++ [(key, value)]

/-- Of several entries with one key the last value counts, at the first one's place. -/
def ofList (pairs : List (κ × α)) : Entries κ α :=
  pairs.foldl (fun entries (key, value) => entries.set key value) []

/-- The entries of `upper` are set over those of `lower`. -/
def overlay (lower upper : Entries κ α) : Entries κ α :=
  upper.foldl (fun entries (key, value) => entries.set key value) lower

theorem find?_set (entries : Entries κ α) (key other : κ) (value : α) :
    (entries.set key value).find? other =
      if key = other then some value else entries.find? other := by
  induction entries with
  | nil => simp [set, find?]
  | cons entry rest ih =>
    obtain ⟨k, v⟩ := entry
    by_cases hk : k = key
    · subst hk; by_cases ho : k = other <;> simp [set, find?, ho]
    · by_cases ho : k = other
      · subst ho; simp [set, find?, hk, Ne.symm hk]
      · simp [set, find?, hk, ho, ih]

theorem find?_erase (entries : Entries κ α) (key other : κ) :
    (entries.erase key).find? other = if key = other then none else entries.find? other := by
  induction entries with
  | nil => simp [erase, find?]
  | cons entry rest ih =>
    obtain ⟨k, v⟩ := entry
    by_cases hk : k = key
    · subst hk; by_cases ho : k = other <;> simp_all [erase, find?]
    · by_cases ho : k = other
      · subst ho; simp [erase, find?, hk, Ne.symm hk]
      · simp [erase, find?, hk, ih, ho]

theorem mem_of_find? {entries : Entries κ α} {key : κ} {value : α}
    (found : entries.find? key = some value) : (key, value) ∈ entries := by
  induction entries with
  | nil => cases found
  | cons entry rest ih =>
    obtain ⟨other, old⟩ := entry
    by_cases same : other = key
    · subst same
      simp only [find?, if_true, Option.some.injEq] at found
      exact List.mem_cons.mpr (.inl (by rw [found]))
    · simp only [find?, if_neg same] at found
      exact List.mem_cons_of_mem _ (ih found)

theorem find?_append (entries others : Entries κ α) (key : κ) :
    find? key (entries ++ others) = (entries.find? key).or (others.find? key) := by
  induction entries with
  | nil => simp [find?]
  | cons entry rest ih =>
    obtain ⟨other, value⟩ := entry
    by_cases same : other = key <;> simp [find?, same, ih]

/-- A key that is not among the first entries is set among the others. -/
theorem set_append_of_missing {entries : Entries κ α} {key : κ}
    (missing : entries.find? key = none) (others : Entries κ α) (value : α) :
    set key value (entries ++ others) = entries ++ set key value others := by
  induction entries with
  | nil => rfl
  | cons entry rest ih =>
    obtain ⟨other, old⟩ := entry
    by_cases same : other = key
    · simp [find?, same] at missing
    · simp only [find?, if_neg same] at missing
      simp [set, same, ih missing]

theorem find?_setIfAbsent (entries : Entries κ α) (key other : κ) (value : α) :
    (entries.setIfAbsent key value).find? other =
      if key = other then some ((entries.find? key).getD value) else entries.find? other := by
  unfold setIfAbsent has
  cases present : entries.find? key with
  | some old => by_cases same : key = other <;> simp_all
  | none =>
    by_cases same : key = other
    · subst same; simp [find?_append, find?, present]
    · simp [find?_append, find?, same]

end Entries
end LiveTemplate
