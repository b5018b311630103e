import LiveTemplate.Forest.Edit
import Mathlib.Data.List.Nodup

/-! Parent links and child lists in step. In a consistent forest a node stands among the children of
its parent, once, and nowhere else, so whatever an edit looks up by the parent link is found. -/
namespace LiveTemplate

namespace Forest

/-- How many nodes there are; their numbers are those below. -/
def size (f : Forest) : Nat := f.cells.size

section
variable {f : Forest} {n m : Nat}

theorem cell_modifyCell (g : Cell → Cell) (here : n < f.size) :
    (f.modifyCell n g).cell m = if m = n then g (f.cell n) else f.cell m := by
  unfold cell modifyCell
  by_cases same : m = n
  · subst same
    simp [Array.getD_eq_getD_getElem?, Array.getElem?_modify, Array.getElem?_eq_getElem here]
  · simp [Array.getD_eq_getD_getElem?, Array.getElem?_modify, same, Ne.symm same]

theorem cell_of_size_le (outside : f.size ≤ n) : f.cell n = blankCell := by
  simp [cell, Array.getD_eq_getD_getElem?, Array.getElem?_eq_none outside]

theorem lt_size_of_cell_ne (made : f.cell n ≠ blankCell) : n < f.size := by
  by_contra outside
  exact made (cell_of_size_le (Nat.le_of_not_lt outside))

theorem cell_add (content : Content Value) :
    (f.add content).2.cell m = if m = f.size then ⟨content, none, []⟩ else f.cell m := by
  unfold cell add size
  by_cases same : m = f.cells.size
  · simp [Array.getD_eq_getD_getElem?, same]
  · simp [Array.getD_eq_getD_getElem?, Array.getElem?_push, same]

@[simp] theorem size_modifyCell (g : Cell → Cell) : (f.modifyCell n g).size = f.size := by
  simp [size, modifyCell]

@[simp] theorem size_add (content : Content Value) : (f.add content).2.size = f.size + 1 := by
  simp [size, add]

@[simp] theorem add_fst (content : Content Value) : (f.add content).1 = f.size := rfl

@[simp] theorem size_setParent (parent : Option NodeId) : (f.setParent n parent).size = f.size :=
  size_modifyCell _

@[simp] theorem size_mapChildren (g : List NodeId → List NodeId) :
    (f.mapChildren n g).size = f.size := size_modifyCell _

@[simp] theorem size_mapContent (g : Content Value → Content Value) :
    (f.mapContent n g).size = f.size := size_modifyCell _

theorem lt_size_of_parent {p : Nat} (child : f.parent n = some p) : n < f.size :=
  lt_size_of_cell_ne fun blank => by simp [parent, blank, blankCell] at child

theorem lt_size_of_mem_children {p : Nat} (child : n ∈ f.children p) : p < f.size :=
  lt_size_of_cell_ne fun blank => by simp [children, blank, blankCell] at child

theorem lt_size_of_content (kind : f.content n ≠ .bare) : n < f.size :=
  lt_size_of_cell_ne fun blank => kind (by simp [content, blank, blankCell])

end

/-! What the three fields of each node are after the elementary changes. -/
section
variable {f : Forest} {n m : Nat}

/-- What a change leaves alone in every cell is everywhere as before. -/
theorem view_modifyCell {α : Type} (view : Cell → α) {g : Cell → Cell}
    (kept : ∀ c, view (g c) = view c) : view ((f.modifyCell n g).cell m) = view (f.cell m) := by
  by_cases here : n < f.size
  · rw [cell_modifyCell g here]
    split
    · next same => rw [kept, same]
    · rfl
  · have outside : f.cells.size ≤ n := Nat.le_of_not_lt here
    have unchanged : (f.modifyCell n g).cell m = f.cell m := by
      unfold cell modifyCell
      by_cases same : m = n
      · simp [Array.getD_eq_getD_getElem?, same, outside]
      · simp [Array.getD_eq_getD_getElem?, Array.getElem?_modify, Ne.symm same]
    rw [unchanged]

@[simp] theorem content_setParent (parent : Option NodeId) :
    (f.setParent n parent).content m = f.content m := view_modifyCell Cell.content fun _ => rfl

@[simp] theorem children_setParent (parent : Option NodeId) :
    (f.setParent n parent).children m = f.children m := view_modifyCell Cell.children fun _ => rfl

theorem parent_setParent (parent : Option NodeId) (here : n < f.size) :
    (f.setParent n parent).parent m = if m = n then parent else f.parent m := by
  simp only [Forest.parent, setParent, cell_modifyCell _ here, apply_ite Cell.parent]

@[simp] theorem content_mapChildren (g : List NodeId → List NodeId) :
    (f.mapChildren n g).content m = f.content m := view_modifyCell Cell.content fun _ => rfl

@[simp] theorem parent_mapChildren (g : List NodeId → List NodeId) :
    (f.mapChildren n g).parent m = f.parent m := view_modifyCell Cell.parent fun _ => rfl

theorem children_mapChildren (g : List NodeId → List NodeId) (here : n < f.size) :
    (f.mapChildren n g).children m = if m = n then g (f.children n) else f.children m := by
  simp only [children, mapChildren, cell_modifyCell _ here, apply_ite Cell.children]

@[simp] theorem parent_mapContent (g : Content Value → Content Value) :
    (f.mapContent n g).parent m = f.parent m := view_modifyCell Cell.parent fun _ => rfl

@[simp] theorem children_mapContent (g : Content Value → Content Value) :
    (f.mapContent n g).children m = f.children m := view_modifyCell Cell.children fun _ => rfl

theorem content_mapContent (g : Content Value → Content Value) (here : n < f.size) :
    (f.mapContent n g).content m = if m = n then g (f.content n) else f.content m := by
  simp only [content, mapContent, cell_modifyCell _ here, apply_ite Cell.content]

theorem content_add (content : Content Value) :
    (f.add content).2.content m = if m = f.size then content else f.content m := by
  simp only [Forest.content, cell_add, apply_ite Cell.content]

theorem parent_add (content : Content Value) : (f.add content).2.parent m = f.parent m := by
  simp only [parent, cell_add]
  split
  · next same => rw [same, cell_of_size_le (Nat.le_refl _)]; rfl
  · rfl

theorem children_add (content : Content Value) : (f.add content).2.children m = f.children m := by
  simp only [children, cell_add]
  split
  · next same => rw [same, cell_of_size_le (Nat.le_refl _)]; rfl
  · rfl

end

/-- Parent links and child lists are in step. -/
structure Consistent (f : Forest) : Prop where
  linked : ∀ n p, f.parent n = some p ↔ n ∈ f.children p
  nodup : ∀ p, (f.children p).Nodup

/-- Links and lists of nodes that were never made need no look. -/
theorem consistent_iff {f : Forest} : f.Consistent ↔
    (∀ n < f.size, ∀ p ∈ f.parent n, n ∈ f.children p) ∧
      ∀ p < f.size, (f.children p).Nodup ∧ ∀ n ∈ f.children p, f.parent n = some p := by
  constructor
  · intro consistent
    exact ⟨fun n _ p link => (consistent.linked n p).mp link, fun p _ =>
      ⟨consistent.nodup p, fun n child => (consistent.linked n p).mpr child⟩⟩
  · rintro ⟨linked, listed⟩
    refine ⟨fun n p => ⟨fun link => linked n (lt_size_of_parent link) p link, fun child => ?_⟩,
      fun p => ?_⟩
    · exact (listed p (lt_size_of_mem_children child)).2 n child
    · by_cases made : p < f.size
      · exact (listed p made).1
      · rw [children, cell_of_size_le (Nat.le_of_not_lt made)]
        exact .nil

instance (f : Forest) : Decidable f.Consistent := decidable_of_iff _ consistent_iff.symm

namespace Consistent

variable {f : Forest} {n p : Nat}

theorem lt_size (consistent : f.Consistent) (child : n ∈ f.children p) : n < f.size :=
  lt_size_of_parent ((consistent.linked n p).mpr child)

/-- Consistency speaks of links and lists only. -/
theorem congr {g : Forest} (consistent : f.Consistent) (parents : ∀ n, g.parent n = f.parent n)
    (lists : ∀ p, g.children p = f.children p) : g.Consistent where
  linked := fun n p => by rw [parents, lists]; exact consistent.linked n p
  nodup := fun p => by rw [lists]; exact consistent.nodup p

theorem mapContent (consistent : f.Consistent) (g : Content Value → Content Value) :
    (f.mapContent n g).Consistent :=
  consistent.congr (fun _ => parent_mapContent g) fun _ => children_mapContent g

theorem add (consistent : f.Consistent) (content : Content Value) :
    (f.add content).2.Consistent :=
  consistent.congr (fun _ => parent_add content) fun _ => children_add content

/-- A node without a parent is in no list. -/
theorem notMem_of_detached (consistent : f.Consistent) (alone : f.parent n = none) :
    n ∉ f.children p := by
  intro child
  rw [(consistent.linked n p).mpr child] at alone
  cases alone

/-- A node is only in the list of its parent. -/
theorem parent_unique (consistent : f.Consistent) {q : Nat} (child : n ∈ f.children p)
    (other : n ∈ f.children q) : q = p := by
  have first := (consistent.linked n p).mpr child
  have second := (consistent.linked n q).mpr other
  exact Option.some.inj (second.symm.trans first)

theorem index_eq (child : n ∈ f.children p) : f.index p n = .ok ((f.children p).idxOf n) := by
  unfold index
  cases found : (f.children p).idxOf? n with
  | some i => rw [List.idxOf_eq_getD_idxOf?, found]; rfl
  | none => exact absurd child (List.idxOf?_eq_none_iff.mp found)

end Consistent

end Forest
end LiveTemplate
