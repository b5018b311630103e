import LiveTemplate.Proofs.Number.Normal
import LiveTemplate.Value.Display
import LiveTemplate.Value.Equality
import Mathlib.Data.List.Forall2
import Mathlib.Logic.Relation

/-! Values that were built from the inside out, so that no container holds itself at any depth. The
text of such a value is told by its members alone: nothing is met again inside itself, and what the
value stands in does not matter. -/
namespace LiveTemplate

/-- What the containers with an identity hold. An identity belongs to one object, so it stands for
the same contents wherever it is met. -/
structure Contents where
  list : Identity → List Value
  tuple : Identity → List Value
  dictionary : Identity → List (Value × Value)

namespace Value

/-- Equality inside containers. -/
def agree (shelf : Shelf) (depth : Nat) (v w : Value) : Bool :=
  v.same w || equalWithin shelf depth v w

/-- A dictionary finds one under the other: they are the same object or equal. -/
def Matches (shelf : Shelf) (v w : Value) : Prop := ∃ depth, agree shelf depth v w = true

/-- A value that cannot change, as keys are: it holds lists and dictionaries at no depth. -/
inductive Fixed : Value → Prop where
  | null : Fixed null
  | bool (b : Bool) : Fixed (bool b)
  | scalar (id : Option Identity) (s : Scalar) : Fixed (scalar id s)
  | function (name : String) : Fixed (function name)
  | tuple {id : Identity} {items : List Value} : (∀ v ∈ items, Fixed v) → Fixed (tuple id items)

variable {shelf : Shelf} {contents : Contents} {v w : Value}

/-- The values directly inside a value. -/
def members (shelf : Shelf) : Value → List Value
  | list _ items | tuple _ items => items
  | sharedList place => shelf.items place
  | dictionary _ entries => entries.map (·.1) ++ entries.map (·.2)
  | _ => []

/-- A value of an application other than a host object, its members left aside: a double has the one
form that reading gives it, a container holds what its identity says, and a dictionary has keys that
cannot change, none of which matches another. -/
def Sound (shelf : Shelf) (contents : Contents) : Value → Prop
  | unset | object _ _ => False
  | scalar _ (.float x) => x.Normal
  | list id items => contents.list id = items
  | tuple id items => contents.tuple id = items
  | dictionary id entries => contents.dictionary id = entries ∧
      (∀ entry ∈ entries, entry.1.Fixed) ∧
      entries.Pairwise fun entry other => ¬ Matches shelf entry.1 other.1
  | _ => True

/-- A sound value whose members were built before. -/
inductive Built (shelf : Shelf) (contents : Contents) : Value → Prop where
  | intro {v : Value} : Sound shelf contents v → (∀ w ∈ v.members shelf, Built shelf contents w) →
      Built shelf contents v

theorem Built.sound (built : Built shelf contents v) : Sound shelf contents v := by
  cases built with
  | intro sound _ => exact sound

theorem Built.member (built : Built shelf contents v) (inside : w ∈ v.members shelf) :
    Built shelf contents w := by
  cases built with
  | intro _ each => exact each w inside

/-- Nothing has to be built before a value that holds no others. -/
theorem Built.plain (sound : Sound shelf contents v) (empty : v.members shelf = []) :
    Built shelf contents v :=
  .intro sound fun _ inside => absurd (empty ▸ inside) List.not_mem_nil

/-- Among sound values an identity names one value. -/
theorem eq_of_same (left : Sound shelf contents v) (right : Sound shelf contents w)
    (same : v.same w = true) : v = w := by
  cases v <;> cases w <;> simp_all [Value.same, Sound]

/-- Directly inside. -/
def Inside (shelf : Shelf) (w v : Value) : Prop := w ∈ v.members shelf

theorem Built.acc (built : Built shelf contents v) : Acc (Inside shelf) v := by
  induction built with
  | intro _ _ ih => exact ⟨_, ih⟩

/-- Nothing that was built is inside itself. -/
theorem Built.not_inside_self (built : Built shelf contents v) :
    ¬ Relation.TransGen (Inside shelf) v v := by
  have reachable : Acc (Relation.TransGen (Inside shelf)) v := built.acc.transGen
  clear built
  induction reachable with
  | intro v _ ih => exact fun cycle => ih v cycle cycle

/-- The containers of `around` were built, and the value is inside each of them. -/
def Enclosed (shelf : Shelf) (contents : Contents) (around : List Value) (v : Value) : Prop :=
  ∀ x ∈ around, Built shelf contents x ∧ Relation.TransGen (Inside shelf) v x

theorem enclosed_nil : Enclosed shelf contents [] v := by
  simp [Enclosed]

theorem Enclosed.member {around : List Value} (enclosed : Enclosed shelf contents around v)
    (built : Built shelf contents v) (inside : w ∈ v.members shelf) :
    Enclosed shelf contents (v :: around) w := by
  intro x standing
  rcases List.mem_cons.mp standing with rfl | outer
  · exact ⟨built, .single inside⟩
  · exact ⟨(enclosed x outer).1, .head inside (enclosed x outer).2⟩

theorem Enclosed.not_met {around : List Value} (enclosed : Enclosed shelf contents around v)
    (built : Built shelf contents v) : around.any v.same = false := by
  rw [List.any_eq_false]
  intro x outer same
  obtain ⟨builtOuter, inside⟩ := enclosed x outer
  obtain rfl := eq_of_same built.sound builtOuter.sound same
  exact built.not_inside_self inside

theorem mapM_eq_of_forall₂ {α β γ : Type} {f : α → Except Error γ} {g : β → Except Error γ}
    {as : List α} {bs : List β} (pairs : List.Forall₂ (fun a b => f a = g b) as bs) :
    as.mapM f = bs.mapM g := by
  induction pairs with
  | nil => rfl
  | cons head _ ih => rw [List.mapM_cons, List.mapM_cons, head, ih]

theorem mapM_congr {α γ : Type} {f g : α → Except Error γ} {as : List α}
    (each : ∀ a ∈ as, f a = g a) : as.mapM f = as.mapM g :=
  mapM_eq_of_forall₂ (List.forall₂_same.mpr each)

theorem isEmpty_of_length {α β : Type} {as : List α} {bs : List β}
    (sizes : as.length = bs.length) : as.isEmpty = bs.isEmpty := by
  cases as <;> cases bs <;> first | rfl | cases sizes

theorem entryText_congr {f g : Value → Except Error String} {entry other : Value × Value}
    (key : f entry.1 = g other.1) (item : f entry.2 = g other.2) :
    entryText f entry = entryText g other := by
  simp only [entryText, key, item]

theorem key_mem_members {id : Identity} {entries : List (Value × Value)} {entry : Value × Value}
    (standing : entry ∈ entries) : entry.1 ∈ (dictionary id entries).members shelf :=
  List.mem_append_left _ (List.mem_map_of_mem standing)

theorem item_mem_members {id : Identity} {entries : List (Value × Value)} {entry : Value × Value}
    (standing : entry ∈ entries) : entry.2 ∈ (dictionary id entries).members shelf :=
  List.mem_append_right _ (List.mem_map_of_mem standing)

section Unmet

variable {depth : Nat} {around items : List Value}

theorem written_list_unmet (held : v.listItems? shelf = some items)
    (unmet : around.any v.same = false) :
    writtenWithin shelf (depth + 1) around v =
      (items.mapM (writtenWithin shelf depth (v :: around))).map inBrackets := by
  cases v with
  | list _ _ | sharedList _ =>
    cases held
    simp only [writtenWithin, unmet, Bool.false_eq_true, if_false]
  | _ => cases held

theorem written_tuple_unmet {id : Identity} (unmet : around.any (tuple id items).same = false) :
    writtenWithin shelf (depth + 1) around (tuple id items) =
      (items.mapM (writtenWithin shelf depth (tuple id items :: around))).map inParentheses := by
  simp only [writtenWithin, unmet, Bool.false_eq_true, if_false]

theorem written_dictionary_unmet {id : Identity} {entries : List (Value × Value)}
    (unmet : around.any (dictionary id entries).same = false) :
    writtenWithin shelf (depth + 1) around (dictionary id entries) = (entries.mapM
      (entryText (writtenWithin shelf depth (dictionary id entries :: around)))).map inBraces := by
  simp only [writtenWithin, unmet, Bool.false_eq_true, if_false]

end Unmet

/-- What stands around a value that was built does not matter to its text. -/
theorem writtenWithin_of_enclosed {depth : Nat} {around : List Value}
    (built : Built shelf contents v) (enclosed : Enclosed shelf contents around v) :
    writtenWithin shelf depth around v = writtenWithin shelf depth [] v := by
  induction depth generalizing v around with
  | zero => rfl
  | succ depth ih =>
    -- Both sides are compared with the text of the item on its own.
    have item (w : Value) (inside : w ∈ v.members shelf) :
        writtenWithin shelf depth (v :: around) w = writtenWithin shelf depth [v] w :=
      (ih (built.member inside) (enclosed.member built inside)).trans
        (ih (built.member inside) (enclosed_nil.member built inside)).symm
    have unmet := enclosed.not_met built
    cases v with
    | list _ _ | sharedList _ =>
      rw [written_list_unmet rfl unmet, written_list_unmet rfl rfl]
      exact congrArg (Except.map inBrackets) (mapM_congr item)
    | tuple _ _ =>
      rw [written_tuple_unmet unmet, written_tuple_unmet rfl]
      exact congrArg (Except.map inParentheses) (mapM_congr item)
    | dictionary _ entries =>
      rw [written_dictionary_unmet unmet, written_dictionary_unmet rfl]
      exact congrArg (Except.map inBraces) (mapM_congr fun entry standing =>
        entryText_congr (item _ (key_mem_members standing)) (item _ (item_mem_members standing)))
    | _ => rfl

section Containers

variable {depth : Nat} {items : List Value}

theorem written_member (built : Built shelf contents v) (inside : w ∈ v.members shelf) :
    writtenWithin shelf depth [v] w = writtenWithin shelf depth [] w :=
  writtenWithin_of_enclosed (built.member inside) (enclosed_nil.member built inside)

theorem members_of_listItems (held : v.listItems? shelf = some items) :
    v.members shelf = items := by
  cases v <;> cases held <;> rfl

theorem written_list (built : Built shelf contents v) (held : v.listItems? shelf = some items) :
    writtenWithin shelf (depth + 1) [] v =
      (items.mapM (writtenWithin shelf depth [])).map inBrackets := by
  rw [written_list_unmet held rfl, ← members_of_listItems held]
  exact congrArg (Except.map inBrackets) (mapM_congr fun _ inside => written_member built inside)

theorem written_tuple {id : Identity} (built : Built shelf contents (tuple id items)) :
    writtenWithin shelf (depth + 1) [] (tuple id items) =
      (items.mapM (writtenWithin shelf depth [])).map inParentheses := by
  rw [written_tuple_unmet rfl]
  exact congrArg (Except.map inParentheses)
    (mapM_congr fun _ inside => written_member built inside)

theorem written_dictionary {id : Identity} {entries : List (Value × Value)}
    (built : Built shelf contents (dictionary id entries)) :
    writtenWithin shelf (depth + 1) [] (dictionary id entries) =
      (entries.mapM (entryText (writtenWithin shelf depth []))).map inBraces := by
  rw [written_dictionary_unmet rfl]
  exact congrArg (Except.map inBraces) (mapM_congr fun entry standing => entryText_congr
    (written_member built (key_mem_members standing))
    (written_member built (item_mem_members standing)))

end Containers

end Value
end LiveTemplate
