import LiveTemplate.Proofs.Forest.Links
import LiveTemplate.Proofs.Node.Walk
import Mathlib.Data.List.Perm.Subperm

/-! Trees in a forest. A node shows a tree if its content and what its children show make the tree
up. A tree that is shown is no deeper than there are nodes, so there is a copy of it: new nodes show
the same. -/
namespace LiveTemplate

namespace Node

/-- What a node is apart from its children. -/
def content : Node → Content Value
  | text data => .text data
  | comment data => .comment data
  | element tag attributes properties _ => .element tag attributes properties
  | fragment _ => .fragment
  | bare => .bare
  | bareParent _ => .bareParent

theorem toNode_content (t : Node) : t.content.toNode t.children = t := by cases t <;> rfl

theorem size_eq (t : Node) : t.size = 1 + sizes t.children := by
  cases t <;> simp [size, children, sizes]

theorem clonable_iff {t : Node} :
    t.isClonable = true ↔ Forest.isClonable t.content = true ∧ areClonable t.children = true := by
  cases t <;> simp [isClonable, content, children, areClonable, Forest.isClonable]

mutual

/-- How many nodes stand one below the other at most. -/
def height : Node → Nat
  | text _ | comment _ | bare => 1
  | element _ _ _ cs | fragment cs | bareParent cs => heights cs + 1

def heights : List Node → Nat
  | [] => 0
  | t :: rest => max (height t) (heights rest)

end

theorem height_eq (t : Node) : t.height = heights t.children + 1 := by
  cases t <;> simp [height, children, heights]

mutual

theorem height_le_size : (t : Node) → t.height ≤ t.size
  | text _ | comment _ | bare => Nat.le_refl _
  | element _ _ _ cs | fragment cs | bareParent cs => by
    have inner := heights_le_sizes cs
    simp only [height, size]
    omega

theorem heights_le_sizes : (ts : List Node) → heights ts ≤ sizes ts
  | [] => Nat.le_refl _
  | t :: ts => by
    have first := height_le_size t
    have others := heights_le_sizes ts
    simp only [heights, sizes]
    omega

end

end Node

namespace Forest

mutual

/-- The node shows the tree. -/
inductive Shows (f : Forest) : NodeId → Node → Prop
  | intro {n : NodeId} {t : Node} (content : f.content n = t.content)
      (below : ShowsAll f (f.children n) t.children) : Shows f n t

/-- The nodes show the trees, one each. -/
inductive ShowsAll (f : Forest) : List NodeId → List Node → Prop
  | nil : ShowsAll f [] []
  | cons {n : NodeId} {t : Node} {ns : List NodeId} {ts : List Node} (first : Shows f n t)
      (rest : ShowsAll f ns ts) : ShowsAll f (n :: ns) (t :: ts)

end

section
variable {f g : Forest} {n : Nat} {t : Node} {ns ms : List NodeId} {ts us : List Node}

theorem ShowsAll.append (first : ShowsAll f ns ts) (second : ShowsAll f ms us) :
    ShowsAll f (ns ++ ms) (ts ++ us) := by
  induction ns generalizing ts with
  | nil => cases first; exact second
  | cons n ns ih =>
    cases first with
    | cons here later => exact .cons here (ih later)

theorem ShowsAll.eq_nil (shown : ShowsAll f ns []) : ns = [] := by
  cases shown
  rfl

mutual

/-- A node shows one tree only. -/
theorem Shows.unique {f : Forest} {n : NodeId} {t u : Node} : Shows f n t → Shows f n u → t = u
  | .intro content below, .intro other under => by
    rw [← Node.toNode_content t, ← Node.toNode_content u, ← content, ← other,
      ShowsAll.unique below under]

theorem ShowsAll.unique {f : Forest} {ns : List NodeId} {ts us : List Node} :
    ShowsAll f ns ts → ShowsAll f ns us → ts = us
  | .nil, .nil => rfl
  | .cons first rest, .cons other others => by
    rw [Shows.unique first other, ShowsAll.unique rest others]

end

theorem Shows.lt_size (shown : Shows f n t) (clonable : t.isClonable = true) : n < f.size := by
  obtain ⟨content, -⟩ := shown
  refine lt_size_of_content fun bare => ?_
  have own := (Node.clonable_iff.mp clonable).1
  rw [← content, bare] at own
  cases own

/-- The trees that a node and some below it show, one below the other, are smaller and smaller. -/
def Descends (f : Forest) (line : List (NodeId × Node)) : Prop :=
  (∀ x ∈ line, Shows f x.1 x.2 ∧ x.1 < f.size) ∧ line.Pairwise fun x y => y.2.size < x.2.size

mutual

/-- There is such a line of any height that the tree has. -/
theorem Shows.line {f : Forest} {n : NodeId} {t : Node} : Shows f n t → t.isClonable = true →
    ∃ line, Descends f line ∧ line.length = t.height ∧ ∀ x ∈ line, x.2.size ≤ t.size
  | .intro content below, clonable => by
    have own : Shows f n t := .intro content below
    obtain ⟨line, ⟨shown, smaller⟩, length, bound⟩ :=
      ShowsAll.line below (Node.clonable_iff.mp clonable).2
    have size := t.size_eq
    refine ⟨(n, t) :: line, ⟨?_, ?_⟩, by rw [t.height_eq, List.length_cons, length], ?_⟩
    · exact List.forall_mem_cons.mpr ⟨⟨own, own.lt_size clonable⟩, shown⟩
    · refine .cons (fun x member => ?_) smaller
      have := bound x member
      show x.2.size < t.size
      omega
    · refine List.forall_mem_cons.mpr ⟨Nat.le_refl _, fun x member => ?_⟩
      have := bound x member
      omega

theorem ShowsAll.line {f : Forest} {ns : List NodeId} {ts : List Node} : ShowsAll f ns ts →
    Node.areClonable ts = true → ∃ line, Descends f line ∧ line.length = Node.heights ts ∧
      ∀ x ∈ line, x.2.size ≤ Node.sizes ts
  | .nil, _ => ⟨[], ⟨List.forall_mem_nil _, .nil⟩, rfl, List.forall_mem_nil _⟩
  | @ShowsAll.cons _ _ t _ ts first rest, clonable => by
    obtain ⟨here, later⟩ : t.isClonable = true ∧ Node.areClonable ts = true := by
      simpa [Node.areClonable] using clonable
    -- The higher of the two lines is taken.
    rcases Nat.le_total (Node.heights ts) t.height with le | le
    · obtain ⟨line, descends, length, bound⟩ := Shows.line first here
      refine ⟨line, descends, by rw [Node.heights, length, Nat.max_eq_left le], ?_⟩
      exact fun x member => Nat.le_trans (bound x member) (Nat.le_add_right _ _)
    · obtain ⟨line, descends, length, bound⟩ := ShowsAll.line rest later
      refine ⟨line, descends, by rw [Node.heights, length, Nat.max_eq_right le], ?_⟩
      exact fun x member => Nat.le_trans (bound x member) (Nat.le_add_left _ _)

end

/-- No node stands below itself, so a tree is no higher than there are nodes. -/
theorem Shows.height_lt_depthBound (shown : Shows f n t) (clonable : t.isClonable = true) :
    t.height < f.depthBound := by
  obtain ⟨line, ⟨trees, smaller⟩, length, -⟩ := shown.line clonable
  have once : (line.map Prod.fst).Nodup := by
    rw [List.Nodup, List.pairwise_map]
    refine smaller.imp_of_mem fun {x y} first second lt same => ?_
    have equal := (trees x first).1.unique (same ▸ (trees y second).1)
    rw [equal] at lt
    exact Nat.lt_irrefl _ lt
  have within : line.map Prod.fst ⊆ List.range f.size := by
    intro m member
    obtain ⟨x, inner, rfl⟩ := List.mem_map.mp member
    exact List.mem_range.mpr (trees x inner).2
  have count := (List.subperm_of_subset once within).length_le
  rw [List.length_map, List.length_range, length] at count
  exact Nat.lt_succ_of_le count

end

end Forest
end LiveTemplate
