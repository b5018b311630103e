import LiveTemplate.Function.Host
import LiveTemplate.Proofs.Value.Twin

/-! Functions that are pure up to the identities of the objects they make. Two courses of events
that begin with the same old objects correspond if each makes new objects where the other does; a
pure function, called with old arguments, leads to corresponding answers. -/
namespace LiveTemplate

/-- Both fail with one error, or the results are related. -/
inductive Alike {α : Type} (related : α → α → Prop) : Except Error α → Except Error α → Prop where
  | ok {a b : α} (results : related a b) : Alike related (.ok a) (.ok b)
  | error (error : Error) : Alike related (.error error) (.error error)

/-- Where objects come from. Some are there from the beginning, among them all that a shared list
holds. A state tells which identities are taken, and one that is taken stays so. -/
structure Origins {σ : Type} (host : Host σ) where
  old : Identity → Prop
  taken : σ → Identity → Prop
  lasting : ∀ function vs s i, taken s i → taken (host.call function vs s).2 i
  lists : ∀ place, ∀ v ∈ host.shelf.items place, v.Within old

namespace Origins

variable {σ : Type} {host : Host σ} (origins : Origins host)

/-- All that is old is there. -/
def Ready (s : σ) : Prop := ∀ i, origins.old i → origins.taken s i

def Later (s t : σ) : Prop := ∀ i, origins.taken s i → origins.taken t i

/-- The identity was given to an object between the two states. -/
def New (s t : σ) (i : Identity) : Prop := ¬ origins.taken s i ∧ origins.taken t i

/-- Which objects correspond when one course of events leads from `s` to `s'` and another from `t`
to `t'`: every old one to itself, and beside them new ones to new ones, one to one. -/
structure Corresponds (s s' t t' : σ) (pairs : Identity → Identity → Prop) : Prop where
  first : origins.Later s s'
  second : origins.Later t t'
  oneToOne : Relator.BiUnique pairs
  old : ∀ i, origins.old i → pairs i i
  known : ∀ i j, pairs i j → i = j ∧ origins.old i ∨ origins.New s s' i ∧ origins.New t t' j

/-- With old arguments nothing but the identities of new objects depends on the state. -/
def Pure (function : String) : Prop :=
  ∀ vs s t, (∀ v ∈ vs, v.Within origins.old) → origins.Ready s → origins.Ready t →
    ∃ pairs, origins.Corresponds s (host.call function vs s).2 t (host.call function vs t).2 pairs ∧
      Alike (Value.Twin pairs) (host.call function vs s).1 (host.call function vs t).1

/-- An old object, and one that is pure if it is a function. -/
def Given (v : Value) : Prop :=
  v.Within origins.old ∧ ∀ name, v = .function name → origins.Pure name

variable {origins} {s s' t t' u v : σ} {pairs others : Identity → Identity → Prop}

theorem given_null : origins.Given .null := ⟨.plain rfl, by rintro name ⟨⟩⟩

theorem given_unset : origins.Given .unset := ⟨.plain rfl, by rintro name ⟨⟩⟩

theorem Later.refl : origins.Later s s := fun _ held => held

theorem Later.trans (first : origins.Later s t) (second : origins.Later t u) :
    origins.Later s u := fun i held => second i (first i held)

theorem Ready.later (ready : origins.Ready s) (later : origins.Later s t) : origins.Ready t :=
  fun i old => later i (ready i old)

/-- Where nothing has happened, nothing but the old objects corresponds. -/
theorem Corresponds.refl (s t : σ) :
    origins.Corresponds s s t t fun i j => i = j ∧ origins.old i where
  first := .refl
  second := .refl
  oneToOne := ⟨by rintro _ _ k ⟨rfl, -⟩ ⟨rfl, -⟩; rfl, by rintro i _ _ ⟨rfl, -⟩ ⟨rfl, -⟩; rfl⟩
  old := fun _ old => ⟨rfl, old⟩
  known := fun _ _ pair => .inl pair

theorem Corresponds.later (corresponds : origins.Corresponds s s' t t' pairs)
    (first : origins.Later s' u) (second : origins.Later t' v) :
    origins.Corresponds s u t v pairs where
  first := corresponds.first.trans first
  second := corresponds.second.trans second
  oneToOne := corresponds.oneToOne
  old := corresponds.old
  known := fun i j pair => (corresponds.known i j pair).imp_right fun ⟨left, right⟩ =>
    ⟨⟨left.1, first i left.2⟩, ⟨right.1, second j right.2⟩⟩

/-- What was paired is taken by then. -/
theorem Corresponds.taken (corresponds : origins.Corresponds s s' t t' pairs)
    (ready : origins.Ready s) (other : origins.Ready t) {i j : Identity} (pair : pairs i j) :
    origins.taken s' i ∧ origins.taken t' j := by
  rcases corresponds.known i j pair with ⟨rfl, old⟩ | ⟨left, right⟩
  · exact ⟨ready.later corresponds.first i old, other.later corresponds.second i old⟩
  · exact ⟨left.2, right.2⟩

/-- One course after the other: what is new in the second was no object in the first. -/
theorem Corresponds.trans (earlier : origins.Corresponds s s' t t' pairs)
    (ready : origins.Ready s) (other : origins.Ready t)
    (later : origins.Corresponds s' u t' v others) :
    origins.Corresponds s u t v fun i j => pairs i j ∨ others i j where
  first := earlier.first.trans later.first
  second := earlier.second.trans later.second
  oneToOne := by
    have forward {i j k : Identity} (left : pairs i j) (right : others i k) : j = k := by
      rcases later.known i k right with ⟨rfl, old⟩ | ⟨new, -⟩
      · exact earlier.oneToOne.2 left (earlier.old i old)
      · exact absurd (earlier.taken ready other left).1 new.1
    have backward {i j k : Identity} (left : pairs i k) (right : others j k) : i = j := by
      rcases later.known j k right with ⟨rfl, old⟩ | ⟨-, new⟩
      · exact earlier.oneToOne.1 left (earlier.old j old)
      · exact absurd (earlier.taken ready other left).2 new.1
    constructor
    · rintro i j k (left | left) (right | right)
      · exact earlier.oneToOne.1 left right
      · exact backward left right
      · exact (backward right left).symm
      · exact later.oneToOne.1 left right
    · rintro i j k (left | left) (right | right)
      · exact earlier.oneToOne.2 left right
      · exact forward left right
      · exact (forward right left).symm
      · exact later.oneToOne.2 left right
  old := fun i old => .inl (earlier.old i old)
  known := by
    rintro i j (pair | pair)
    · exact (earlier.later later.first later.second).known i j pair
    · refine (later.known i j pair).imp_right fun ⟨left, right⟩ => ⟨⟨?_, left.2⟩, ⟨?_, right.2⟩⟩
      · exact fun held => left.1 (earlier.first i held)
      · exact fun held => right.1 (earlier.second j held)

end Origins
end LiveTemplate
