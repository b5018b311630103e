import LiveTemplate.Node.Walk
import Mathlib.Data.List.Nodup

/-! The walk over a tree in its three forms. The stack walk is the recursive pre-order, which meets
the texts and elements among all nodes where no bare parent hides any; the spots are its nodes in
the same order, each under a path of its own that leads to it. -/
namespace LiveTemplate.Node

theorem preorders_append (ms ns : List Node) :
    preorders (ms ++ ns) = preorders ms ++ preorders ns := by
  induction ms with
  | nil => rfl
  | cons m ms ih => simp [preorders, ih]

theorem allNodesOf_append (ms ns : List Node) :
    allNodesOf (ms ++ ns) = allNodesOf ms ++ allNodesOf ns := by
  induction ms with
  | nil => rfl
  | cons m ms ih => simp [allNodesOf, ih]

theorem textContents_append (ms ns : List Node) :
    textContents (ms ++ ns) = textContents ms ++ textContents ns := by
  induction ms with
  | nil => simp [textContents]
  | cons m ms ih => simp [textContents, ih, String.append_assoc]

theorem preorder_eq_of_walked {n : Node} (walked : n.isWalked = true) :
    preorder n = n :: preorders n.entered := by
  cases n <;> simp_all [isWalked, preorder, preorders, entered]

theorem preorder_eq_of_not_walked {n : Node} (passed : n.isWalked = false) :
    preorder n = preorders n.entered := by
  cases n <;> simp_all [isWalked, preorder, preorders, entered]

/-- What is still on the stack is walked as if it were visited by recursion. -/
theorem walkStack_eq_preorders (stack : List Node) : walkStack stack = preorders stack := by
  fun_induction walkStack stack with
  | case1 => rfl
  | case2 n stack _ walked ih =>
    rw [ih, preorders, preorder_eq_of_walked walked, preorders_append, List.cons_append]
  | case3 n stack _ passed ih =>
    rw [ih, preorders, preorder_eq_of_not_walked (by simpa using passed), preorders_append]

theorem walk_eq_preorder (root : Node) : root.walk = root.preorder := by
  rw [walk, walkStack_eq_preorders, preorders, preorders, List.append_nil]

mutual

/-- No bare parent occurs in the node. -/
def isOpen : Node → Bool
  | text _ | comment _ | bare => true
  | element _ _ _ cs | fragment cs => areOpen cs
  | bareParent _ => false

def areOpen : List Node → Bool
  | [] => true
  | t :: rest => isOpen t && areOpen rest

end

theorem isOpen_and_areOpen {t : Node} {ts : List Node} (opened : areOpen (t :: ts) = true) :
    t.isOpen = true ∧ areOpen ts = true := by
  simpa [areOpen] using opened

mutual

/-- Nothing is hidden in an open tree. -/
theorem filter_allNodes : (t : Node) → t.isOpen = true →
    (allNodes t).filter isWalked = preorder t
  | text _, _ => rfl
  | comment _, _ => rfl
  | bare, _ => rfl
  | element tag attributes properties cs, opened => by
    rw [allNodes, preorder, List.filter_cons_of_pos rfl, filter_allNodesOf cs opened]
  | fragment cs, opened => by
    rw [allNodes, preorder, List.filter_cons_of_neg Bool.false_ne_true,
      filter_allNodesOf cs opened]
  | bareParent _, opened => nomatch opened

theorem filter_allNodesOf : (ts : List Node) → areOpen ts = true →
    (allNodesOf ts).filter isWalked = preorders ts
  | [], _ => rfl
  | t :: ts, opened => by
    obtain ⟨first, others⟩ := isOpen_and_areOpen opened
    rw [allNodesOf, preorders, List.filter_append, filter_allNodes t first,
      filter_allNodesOf ts others]

end

/-- The path in a list of trees once `count` trees have been put before them. -/
def later (count : Nat) : Path → Path
  | [] => []
  | index :: path => (index + count) :: path

@[simp] theorem later_cons (count index : Nat) (path : Path) :
    later count (index :: path) = (index + count) :: path := rfl

@[simp] theorem later_zero (path : Path) : later 0 path = path := by cases path <;> rfl

@[simp] theorem later_later (a b : Nat) (path : Path) :
    later a (later b path) = later (b + a) path := by
  cases path <;> simp [later, Nat.add_assoc]

theorem map_later_zero {α : Type} (placed : List (Path × α)) :
    placed.map (Prod.map (later 0) id) = placed := by
  have same : (Prod.map (later 0) id : Path × α → Path × α) = id := by
    funext ⟨path, a⟩
    simp
  rw [same, List.map_id]

theorem later_injective (count : Nat) : Function.Injective (later count) := by
  intro p q same
  cases p <;> cases q <;> simp_all [later]

mutual

/-- Spots are the same wherever the node stands, up to the path to it. -/
theorem spotsAt_eq_map (above : Path) : (n : Node) →
    spotsAt above n = (spots n).map (Prod.map (above.reverse ++ ·) id)
  | .text _ => by simp [spots, spotsAt]
  | .element _ _ _ cs => by simp [spots, spotsAt, spotsFrom_eq_map above 0 cs]
  | .fragment cs => by simp [spots, spotsAt, spotsFrom_eq_map above 0 cs]
  | .comment _ | .bare | .bareParent _ => by simp [spots, spotsAt]

theorem spotsFrom_eq_map (above : Path) (index : Nat) : (ns : List Node) →
    spotsFrom above index ns =
      (spotsFrom [] 0 ns).map (Prod.map (fun path => above.reverse ++ later index path) id)
  | [] => by simp [spotsFrom]
  | n :: ns => by
    rw [spotsFrom, spotsFrom, spotsAt_eq_map (index :: above) n, spotsAt_eq_map [0] n,
      spotsFrom_eq_map above (index + 1) ns, spotsFrom_eq_map [] 1 ns]
    simp only [List.map_append, List.map_map, Prod.map_comp_map, Function.comp_id]
    simp [Function.comp_def, Nat.add_comm 1 index]

end

/-- The spots of trees that stand side by side. -/
def spotsAmong (ns : List Node) : List (Path × Node) := spotsFrom [] 0 ns

@[simp] theorem spotsAmong_nil : spotsAmong [] = [] := rfl

theorem spotsAmong_cons (n : Node) (ns : List Node) :
    spotsAmong (n :: ns) =
      (spots n).map (Prod.map (0 :: ·) id) ++ (spotsAmong ns).map (Prod.map (later 1) id) := by
  rw [spotsAmong, spotsFrom, spotsAt_eq_map, spotsFrom_eq_map]
  rfl

theorem spotsAmong_append (ms ns : List Node) :
    spotsAmong (ms ++ ns) =
      spotsAmong ms ++ (spotsAmong ns).map (Prod.map (later ms.length) id) := by
  induction ms with
  | nil => exact (map_later_zero _).symm
  | cons m ms ih =>
    rw [List.cons_append, spotsAmong_cons, spotsAmong_cons, ih, List.map_append, List.append_assoc,
      List.map_map, Prod.map_comp_map]
    simp [Function.comp_def]

@[simp] theorem spots_text (data : String) : spots (.text data) = [([], .text data)] := rfl

@[simp] theorem spots_element (tag : String) (attributes : Attributes) (properties : Properties)
    (cs : List Node) : spots (.element tag attributes properties cs) =
      ([], .element tag attributes properties cs) :: spotsAmong cs := rfl

@[simp] theorem spots_fragment (cs : List Node) : spots (.fragment cs) = spotsAmong cs := rfl

mutual

theorem map_snd_spots : (n : Node) → (spots n).map Prod.snd = preorder n
  | .text _ => rfl
  | .element _ _ _ cs => by simp [preorder, map_snd_spotsAmong cs]
  | .fragment cs => by simp [preorder, map_snd_spotsAmong cs]
  | .comment _ | .bare | .bareParent _ => rfl

theorem map_snd_spotsAmong : (ns : List Node) → (spotsAmong ns).map Prod.snd = preorders ns
  | [] => rfl
  | n :: ns => by
    rw [preorders, ← map_snd_spots n, ← map_snd_spotsAmong ns]
    simp [spotsAmong_cons, Function.comp_def]

end

/-- The node that a path leads to. -/
def at? : Path → Node → Option Node
  | [], n => some n
  | index :: path, n => n.children[index]?.bind (at? path)

mutual

theorem at?_of_mem_spots : {n : Node} → {path : Path} → {m : Node} →
    (path, m) ∈ spots n → n.at? path = some m
  | .text _, _, _, member => by
    obtain ⟨rfl, rfl⟩ : _ = [] ∧ _ = Node.text _ := by simpa using member
    rfl
  | .element _ _ _ cs, _, _, member => by
    rcases List.mem_cons.mp member with here | below
    · cases here; rfl
    · obtain ⟨index, path, rfl, found⟩ := at?_of_mem_spotsAmong below
      exact found
  | .fragment cs, _, _, member => by
    obtain ⟨index, path, rfl, found⟩ := at?_of_mem_spotsAmong member
    exact found
  | .comment _, _, _, member | .bare, _, _, member | .bareParent _, _, _, member => by
    simp [spots, spotsAt] at member

theorem at?_of_mem_spotsAmong : {ns : List Node} → {path : Path} → {m : Node} →
    (path, m) ∈ spotsAmong ns →
      ∃ index rest, path = index :: rest ∧ ns[index]?.bind (at? rest) = some m
  | n :: ns, path, m, member => by
    rw [spotsAmong_cons, List.mem_append] at member
    rcases member with first | others
    · obtain ⟨⟨rest, _⟩, inner, equal⟩ := List.mem_map.mp first
      cases equal
      exact ⟨0, rest, rfl, at?_of_mem_spots inner⟩
    · obtain ⟨⟨_, _⟩, inner, equal⟩ := List.mem_map.mp others
      cases equal
      obtain ⟨index, rest, rfl, found⟩ := at?_of_mem_spotsAmong inner
      exact ⟨index + 1, rest, rfl, by simpa using found⟩

end

theorem paths_among_ne_nil {ns : List Node} {spot : Path × Node} (member : spot ∈ spotsAmong ns) :
    spot.1 ≠ [] := by
  obtain ⟨index, rest, equal, _⟩ := at?_of_mem_spotsAmong member
  simp [equal]

mutual

/-- No two walked nodes share a path. -/
theorem nodup_paths : (n : Node) → ((spots n).map Prod.fst).Nodup
  | .text _ => by simp
  | .element _ _ _ cs => by
    rw [spots_element, List.map_cons, List.nodup_cons]
    refine ⟨?_, nodup_paths_among cs⟩
    intro member
    obtain ⟨spot, inner, root⟩ := List.mem_map.mp member
    exact paths_among_ne_nil inner root
  | .fragment cs => nodup_paths_among cs
  | .comment _ | .bare | .bareParent _ => by simp [spots, spotsAt]

theorem nodup_paths_among : (ns : List Node) → ((spotsAmong ns).map Prod.fst).Nodup
  | [] => by simp
  | n :: ns => by
    have first := (nodup_paths n).map (List.cons_injective (a := 0))
    have others := (nodup_paths_among ns).map (later_injective 1)
    have apart : ∀ p ∈ (spots n).map Prod.fst, ∀ q ∈ (spotsAmong ns).map Prod.fst,
        0 :: p ≠ later 1 q := by
      intro p _ q member same
      obtain ⟨spot, inner, rfl⟩ := List.mem_map.mp member
      cases path : spot.1 with
      | nil => exact paths_among_ne_nil inner path
      | cons index rest => simp [path] at same
    rw [spotsAmong_cons, List.map_append, List.nodup_append]
    simp only [List.map_map, Function.comp_def, Prod.map_fst] at first others ⊢
    refine ⟨first, others, ?_⟩
    intro p pth q qth
    obtain ⟨s, hs, rfl⟩ := List.mem_map.mp pth
    obtain ⟨t, ht, rfl⟩ := List.mem_map.mp qth
    exact apart s.1 (List.mem_map_of_mem hs) t.1 (List.mem_map_of_mem ht)

end

end LiveTemplate.Node
