import LiveTemplate.Proofs.Forest.Links

/-! Where nodes come to stand. An edit that moves a node takes it from its old list and puts it at
one place of a list, and a new node takes its children from wherever they stood. All other siblings
stay in their order. -/
namespace LiveTemplate.Forest

/-- `n` has come into the list at some place; the others stand as they stood. -/
def Placed (n : NodeId) (before after : List NodeId) : Prop :=
  ∃ front back, before = front ++ back ∧ after = front ++ n :: back

section
variable {n : NodeId} {before after : List NodeId}

theorem Placed.perm (placed : Placed n before after) : after.Perm (n :: before) := by
  obtain ⟨front, back, rfl, rfl⟩ := placed
  exact List.perm_middle

theorem placed_last (before : List NodeId) : Placed n before (before ++ [n]) :=
  ⟨before, [], (List.append_nil _).symm, rfl⟩

theorem placed_insertIdx {i : Nat} (le : i ≤ before.length) :
    Placed n before (before.insertIdx i n) := by
  refine ⟨before.take i, before.drop i, (List.take_append_drop i before).symm, ?_⟩
  induction before generalizing i with
  | nil => simp [Nat.le_zero.mp le]
  | cons first before ih =>
    cases i with
    | zero => rfl
    | succ i => simpa using ih (Nat.le_of_succ_le_succ le)

theorem clampPosition_le (position : Int) (length : Nat) :
    clampPosition position length ≤ length := by
  unfold clampPosition
  split <;> omega

theorem placed_insertAt (position : Int) : Placed n before (insertAt position n before) :=
  placed_insertIdx (clampPosition_le position before.length)

end

/-- The forest is as before but for the node, which stands in the list that `p` now has. -/
structure Moved (f : Forest) (p n : NodeId) (listed : List NodeId) (g : Forest) : Prop where
  consistent : g.Consistent
  size : g.size = f.size
  content : ∀ m, g.content m = f.content m
  parent : ∀ m, g.parent m = if m = n then some p else f.parent m
  children : ∀ q, g.children q = if q = p then listed else (f.children q).filter (· ≠ n)
  placed : Placed n ((f.children p).filter (· ≠ n)) listed

section
variable {f g : Forest} {p r n : Nat}

/-- A node that was taken away is put somewhere. -/
theorem Removed.attach (removed : Removed f n g) (here : n < f.size) (above : p < f.size)
    (place : List NodeId → List NodeId) (placed : Placed n (g.children p) (place (g.children p))) :
    Moved f p n (place ((f.children p).filter (· ≠ n))) (g.attach p n place) := by
  have here' : n < g.size := by rw [removed.size]; exact here
  have above' : p < g.size := by rw [removed.size]; exact above
  have alone : g.parent n = none := by rw [removed.parent, if_pos rfl]
  refine ⟨removed.consistent.attach alone here' above' placed.perm, ?_, fun m => ?_, fun m => ?_,
    fun q => ?_, ?_⟩
  · rw [size_attach, removed.size]
  · rw [content_attach, removed.content]
  · rw [parent_attach here', removed.parent]
    split <;> rfl
  · rw [children_attach above', removed.children, removed.children]
  · rw [← removed.children]
    exact placed

/-- An appended node stands last. -/
theorem Consistent.append (consistent : f.Consistent) (here : n < f.size) (above : p < f.size) :
    ∃ g, f.append p n = ⟨.ok (), g⟩ ∧
      Moved f p n ((f.children p).filter (· ≠ n) ++ [n]) g := by
  obtain ⟨g, detached, removed⟩ := consistent.detach n
  refine ⟨_, ?_, removed.attach here above (· ++ [n]) (placed_last _)⟩
  rw [Forest.append, detached]
  rfl

/-- A position that a list can have. -/
def IsPosition (position : Int) : Prop := -positionLimit ≤ position ∧ position < positionLimit

instance (position : Int) : Decidable (IsPosition position) := inferInstanceAs (Decidable (_ ∧ _))

/-- An inserted node stands at the position, counted without it. -/
theorem Consistent.insert (consistent : f.Consistent) (here : n < f.size) (above : p < f.size)
    {position : Int} (inRange : IsPosition position) :
    ∃ g, f.insert p position n = ⟨.ok (), g⟩ ∧
      Moved f p n (insertAt position n ((f.children p).filter (· ≠ n))) g := by
  obtain ⟨g, detached, removed⟩ := consistent.detach n
  refine ⟨_, ?_, removed.attach here above _ (placed_insertAt position)⟩
  rw [Forest.insert, detached]
  exact if_pos inRange

/-- A position that no list could have leaves the node with a parent that does not list it. -/
theorem Consistent.insert_outside (consistent : f.Consistent) {position : Int}
    (outside : ¬ IsPosition position) :
    ∃ g, f.insert p position n = ⟨.error .positionTooLarge, g.setParent n (some p)⟩ ∧
      Removed f n g := by
  obtain ⟨g, detached, removed⟩ := consistent.detach n
  refine ⟨g, ?_, removed⟩
  rw [Forest.insert, detached]
  exact if_neg outside

/-- Such a node is lost: its parent does not list it. -/
theorem Removed.lost (removed : Removed f n g) (here : n < f.size) :
    ¬ (g.setParent n (some p)).Consistent := by
  intro consistent
  have link : (g.setParent n (some p)).parent n = some p := by
    rw [parent_setParent _ (by rw [removed.size]; exact here), if_pos rfl]
  have child := (consistent.linked n p).mp link
  rw [children_setParent, removed.children] at child
  simp at child

theorem index_missing (missing : n ∉ f.children p) : f.index p n = .error .notAChild := by
  unfold index
  rw [List.idxOf?_eq_none_iff.mpr missing]

/-- A node that is put behind another stands next to it. -/
theorem Consistent.insertAfter (consistent : f.Consistent) (here : n < f.size)
    (child : r ∈ f.children p) (other : r ≠ n) :
    ∃ g, f.insertAfter p r n = ⟨.ok (), g⟩ ∧
      Moved f p n (inPlaceOf r [r, n] ((f.children p).filter (· ≠ n))) g := by
  obtain ⟨g, detached, removed⟩ := consistent.detach n
  have still : r ∈ g.children p := by
    rw [removed.children]
    exact List.mem_filter.mpr ⟨child, by simpa using other⟩
  have once := removed.consistent.nodup p
  have lists := insertIdx_eq_inPlaceOf (s := n) still once
  have moved := removed.attach here (lt_size_of_mem_children child)
    (·.insertIdx ((g.children p).idxOf r + 1) n)
    (placed_insertIdx (List.idxOf_lt_length_of_mem still))
  rw [← removed.children, lists, removed.children] at moved
  refine ⟨_, ?_, moved⟩
  rw [Forest.insertAfter, detached]
  simp only [Outcome.andThen, Consistent.index_eq still, removed.children]

/-- The reference is looked for after the node has left its place. -/
theorem Consistent.insertAfter_missing (consistent : f.Consistent)
    (missing : r ∉ f.children p ∨ r = n) :
    ∃ g, f.insertAfter p r n = ⟨.error .notAChild, g⟩ ∧ Removed f n g := by
  obtain ⟨g, detached, removed⟩ := consistent.detach n
  have gone : r ∉ g.children p := by
    rw [removed.children, List.mem_filter]
    rintro ⟨child, other⟩
    rcases missing with stranger | same
    · exact stranger child
    · simp [same] at other
  refine ⟨g, ?_, removed⟩
  rw [Forest.insertAfter, detached]
  simp only [Outcome.andThen, index_missing gone]

end

/-- A new node lists its children, and some of them have been taken from where they stood. -/
structure Adopting (f : Forest) (content : Content Value) (listed adopted : List NodeId)
    (g : Forest) : Prop where
  size : g.size = f.size + 1
  content : ∀ m, g.content m = if m = f.size then content else f.content m
  parent : ∀ m, g.parent m = if m ∈ adopted then some f.size else f.parent m
  children : ∀ q, g.children q =
    if q = f.size then listed else (f.children q).filter (· ∉ adopted)

section
variable {f g : Forest} {content : Content Value} {listed adopted : List NodeId} {c : Nat}

/-- A node that is in the list of another parent or in none does not matter here. -/
theorem filter_adopted_of_notMem {children : List NodeId} (missing : c ∉ children) :
    children.filter (· ∉ adopted) = children.filter (· ∉ adopted ++ [c]) := by
  refine List.filter_congr fun m member => ?_
  have other : m ≠ c := fun same => missing (same ▸ member)
  simp [other]

theorem filter_adopted (children : List NodeId) :
    (children.filter (· ∉ adopted)).filter (· ≠ c) = children.filter (· ∉ adopted ++ [c]) := by
  rw [List.filter_filter]
  refine List.filter_congr fun m _ => ?_
  by_cases same : m = c <;> by_cases member : m ∈ adopted <;> simp [same, member]

/-- A child that has left its old place gets the new node as its parent. -/
theorem Adopting.setParent {h : Forest} (state : Adopting f content listed adopted g)
    (here : c < h.size) (size : h.size = g.size) (contents : ∀ m, h.content m = g.content m)
    (parents : ∀ m, m ≠ c → h.parent m = g.parent m)
    (lists : ∀ q, h.children q =
      if q = f.size then listed else (f.children q).filter (· ∉ adopted ++ [c])) :
    Adopting f content listed (adopted ++ [c]) (h.setParent c (some f.size)) := by
  refine ⟨?_, fun m => ?_, fun m => ?_, fun q => ?_⟩
  · rw [size_setParent, size, state.size]
  · rw [content_setParent, contents, state.content]
  · rw [parent_setParent _ here]
    by_cases same : m = c
    · simp [same]
    · rw [if_neg same, parents m same, state.parent]
      simp [same]
  · rw [children_setParent, lists]

/-- The next child is adopted. Its old parent is another than the new node. -/
theorem Adopting.adopt (consistent : f.Consistent) (state : Adopting f content listed adopted g)
    (here : c < f.size) (new : c ∉ adopted) :
    ∃ h, g.adopt f.size c = ⟨.ok (), h⟩ ∧ Adopting f content listed (adopted ++ [c]) h := by
  have here' : c < g.size := by
    rw [state.size]
    omega
  have link : g.parent c = f.parent c := by rw [state.parent, if_neg new]
  cases old : f.parent c with
  | none =>
    refine ⟨g.setParent c (some f.size), ?_, state.setParent here' rfl (fun _ => rfl)
      (fun _ _ => rfl) fun q => ?_⟩
    · rw [Forest.adopt, link, old]
      rfl
    · rw [state.children, filter_adopted_of_notMem (consistent.notMem_of_detached old)]
  | some p =>
    have child : c ∈ f.children p := (consistent.linked c p).mp old
    have apart : p ≠ f.size := Nat.ne_of_lt (lt_size_of_mem_children child)
    have listed_p : g.children p = (f.children p).filter (· ∉ adopted) := by
      rw [state.children, if_neg apart]
    obtain ⟨h, done, size, contents, parents, lists⟩ := removeChild_eq (p := p) here'
      (by rw [listed_p]; exact List.mem_filter.mpr ⟨child, by simpa using new⟩)
      (by rw [listed_p]; exact (consistent.nodup p).filter _)
    refine ⟨h.setParent c (some f.size), ?_, state.setParent (by rw [size]; exact here') size
      contents (fun m other => by rw [parents, if_neg other]) fun q => ?_⟩
    · rw [Forest.adopt, link, old]
      simp only [if_neg apart, done]
      rfl
    · rw [lists]
      by_cases same : q = p
      · rw [if_pos same, listed_p, filter_adopted, same, if_neg apart]
      · rw [if_neg same, state.children, filter_adopted_of_notMem fun member =>
          same (consistent.parent_unique child member)]

theorem Adopting.adoptAll {rest : List NodeId} (consistent : f.Consistent)
    (state : Adopting f content listed adopted g) (here : ∀ c ∈ rest, c < f.size)
    (once : (adopted ++ rest).Nodup) :
    ∃ h, g.adoptAll f.size rest = ⟨.ok (), h⟩ ∧
      Adopting f content listed (adopted ++ rest) h := by
  induction rest generalizing adopted g with
  | nil => exact ⟨g, rfl, by rwa [List.append_nil]⟩
  | cons c rest ih =>
    obtain ⟨first, others⟩ := List.forall_mem_cons.mp here
    have new : c ∉ adopted := fun member =>
      (List.nodup_append.mp once).2.2 c member c List.mem_cons_self rfl
    obtain ⟨h, done, next⟩ := state.adopt consistent first new
    rw [List.append_cons] at once ⊢
    obtain ⟨h', rest_done, final⟩ := ih next others once
    refine ⟨h', ?_, final⟩
    rw [Forest.adoptAll, done]
    exact rest_done

/-- When all listed children are adopted, links and lists are in step again. -/
theorem Adopting.consistent (consistent : f.Consistent)
    (state : Adopting f content listed listed g) (once : listed.Nodup) : g.Consistent := by
  constructor
  · intro m p
    rw [state.parent, state.children]
    by_cases new : p = f.size
    · have outside : f.parent m ≠ some f.size := fun link =>
        Nat.lt_irrefl _ (lt_size_of_mem_children ((consistent.linked m f.size).mp link))
      by_cases member : m ∈ listed <;> simp [member, new, outside]
    · by_cases member : m ∈ listed
      · simp [member, new, Ne.symm new]
      · simp [member, new, consistent.linked m p]
  · intro p
    rw [state.children]
    split
    · exact once
    · exact (consistent.nodup p).filter _

/-- A new node takes its children from wherever they stood. -/
theorem Consistent.construct_adopting (consistent : f.Consistent) (content : Content Value)
    (here : ∀ c ∈ listed, c < f.size) (once : listed.Nodup) :
    ∃ g, f.construct content listed = ⟨.ok f.size, g⟩ ∧ g.Consistent ∧
      Adopting f content listed listed g := by
  have start : Adopting f content listed []
      ((f.add content).2.mapChildren f.size fun _ => listed) := by
    have inside : f.size < (f.add content).2.size := by simp
    refine ⟨by simp, fun m => by simp [content_add], fun m => by simp [parent_add], fun q => ?_⟩
    rw [children_mapChildren _ inside, children_add]
    simp
  obtain ⟨g, done, final⟩ := start.adoptAll consistent here once
  refine ⟨g, ?_, final.consistent consistent once, final⟩
  have adopting : f.construct content listed =
      (((f.add content).2.mapChildren f.size fun _ => listed).adoptAll f.size listed).andThen
        fun _ g => ⟨.ok f.size, g⟩ := rfl
  rw [adopting, done]
  rfl

end

end LiveTemplate.Forest
