import LiveTemplate.Proofs.Forest.Consistent

/-! What moving and splitting do to a consistent forest. Nothing that is looked up is missed, so
they succeed; the forest stays consistent, and child lists change where the node stands and nowhere
else. -/
namespace LiveTemplate

namespace Forest

/-- The child list with these nodes where `n` was. -/
def inPlaceOf (n : NodeId) (others children : List NodeId) : List NodeId :=
  children.flatMap fun c => if c = n then others else [c]

section
variable {n s : Nat} {others children before after : List NodeId}

theorem inPlaceOf_of_notMem (missing : n ∉ children) : inPlaceOf n others children = children := by
  induction children with
  | nil => rfl
  | cons c rest ih =>
    have other : n ≠ c := List.ne_of_not_mem_cons missing
    have later := ih (List.not_mem_of_not_mem_cons missing)
    unfold inPlaceOf at later ⊢
    rw [List.flatMap_cons, later, if_neg (Ne.symm other), List.singleton_append]

theorem inPlaceOf_append (first second : List NodeId) :
    inPlaceOf n others (first ++ second) =
      inPlaceOf n others first ++ inPlaceOf n others second := List.flatMap_append

theorem inPlaceOf_middle (once : (before ++ n :: after).Nodup) :
    inPlaceOf n others (before ++ n :: after) = before ++ others ++ after := by
  obtain ⟨-, behind, apart⟩ := List.nodup_append.mp once
  have front : n ∉ before := fun member => apart n member n List.mem_cons_self rfl
  rw [inPlaceOf_append, inPlaceOf_of_notMem front, List.append_assoc]
  congr 1
  unfold inPlaceOf
  rw [List.flatMap_cons, if_pos rfl]
  exact congrArg _ (inPlaceOf_of_notMem (List.nodup_cons.mp behind).1)

theorem insertIdx_behind (before after : List NodeId) :
    (before ++ n :: after).insertIdx (before.length + 1) s = before ++ n :: s :: after := by
  induction before with
  | nil => rfl
  | cons first before ih => exact congrArg (first :: ·) ih

/-- A node is put behind another one. -/
theorem insertIdx_eq_inPlaceOf (child : n ∈ children) (once : children.Nodup) :
    children.insertIdx (children.idxOf n + 1) s = inPlaceOf n [n, s] children := by
  obtain ⟨before, after, rfl, front⟩ := List.eq_append_cons_of_mem child
  rw [inPlaceOf_middle once, List.idxOf_append_of_notMem front, List.idxOf_cons_self, Nat.add_zero,
    insertIdx_behind]
  simp

/-- What stands behind a node is itself given up for others. -/
theorem inPlaceOf_inPlaceOf (apart : n ≠ s) (fresh : s ∉ children) :
    inPlaceOf s others (inPlaceOf n [n, s] children) = inPlaceOf n (n :: others) children := by
  unfold inPlaceOf
  rw [List.flatMap_assoc]
  refine List.flatMap_congr fun c member => ?_
  have other : c ≠ s := fun same => fresh (same ▸ member)
  by_cases here : c = n
  · simp [here, apart]
  · simp [here, other]

theorem perm_insertIdx {i : Nat} (le : i ≤ children.length) :
    (children.insertIdx i s).Perm (s :: children) := List.perm_insertIdx s children le

end

section
variable {f : Forest} {n p : Nat} {place : List NodeId → List NodeId}

@[simp] theorem content_attach (m : NodeId) : (f.attach p n place).content m = f.content m := by
  simp [attach]

@[simp] theorem size_attach : (f.attach p n place).size = f.size := by simp [attach]

theorem parent_attach (here : n < f.size) (m : Nat) :
    (f.attach p n place).parent m = if m = n then some p else f.parent m := by
  simp [attach, parent_setParent _ here]

theorem children_attach (above : p < f.size) (q : NodeId) :
    (f.attach p n place).children q = if q = p then place (f.children p) else f.children q := by
  simp [attach, children_mapChildren, above]

/-- A node that stood nowhere gets a place among the children of another. -/
theorem Consistent.attach (consistent : f.Consistent) (alone : f.parent n = none)
    (here : n < f.size) (above : p < f.size)
    (placed : (place (f.children p)).Perm (n :: f.children p)) :
    (f.attach p n place).Consistent := by
  constructor
  · intro m q
    rw [parent_attach here, children_attach above]
    by_cases same : m = n
    · subst same
      rw [if_pos rfl]
      split
      · next parent => simp [parent, placed.mem_iff]
      · next other => simp [Ne.symm other, consistent.notMem_of_detached alone]
    · rw [if_neg same, consistent.linked m q]
      split
      · next parent => simp [parent, placed.mem_iff, same]
      · rfl
  · intro q
    rw [children_attach above]
    split
    · rw [placed.nodup_iff, List.nodup_cons]
      exact ⟨consistent.notMem_of_detached alone, consistent.nodup p⟩
    · exact consistent.nodup q

/-- The forest is as before but for the node, which stands nowhere. -/
structure Removed (f : Forest) (n : NodeId) (g : Forest) : Prop where
  consistent : g.Consistent
  size : g.size = f.size
  content : ∀ m, g.content m = f.content m
  parent : ∀ m, g.parent m = if m = n then none else f.parent m
  children : ∀ q, g.children q = (f.children q).filter (· ≠ n)

theorem Removed.refl (consistent : f.Consistent) (alone : f.parent n = none) : Removed f n f where
  consistent := consistent
  size := rfl
  content := fun _ => rfl
  parent := fun m => by split <;> simp_all
  children := fun q => by
    refine (List.filter_eq_self.mpr fun m member => ?_).symm
    simpa using fun same : m = n => consistent.notMem_of_detached alone (same ▸ member)

/-- A child is taken out of the list of its parent, if it stands there once. -/
theorem removeChild_eq (here : n < f.size) (child : n ∈ f.children p)
    (once : (f.children p).Nodup) :
    ∃ g, f.removeChild p n = ⟨.ok (), g⟩ ∧ g.size = f.size ∧
      (∀ m, g.content m = f.content m) ∧
      (∀ m, g.parent m = if m = n then none else f.parent m) ∧
      ∀ q, g.children q = if q = p then (f.children p).filter (· ≠ n) else f.children q := by
  have above := lt_size_of_mem_children child
  refine ⟨_, by rw [Forest.removeChild, Consistent.index_eq child], by simp, by simp,
    fun m => by simp [parent_setParent, here], fun q => ?_⟩
  rw [children_setParent, children_mapChildren _ above,
    ← List.erase_eq_eraseIdx_of_idxOf rfl, once.erase_eq_filter]
  simp only [bne, beq_eq_decide, ne_eq, decide_not]

theorem Consistent.removeChild (consistent : f.Consistent) (child : n ∈ f.children p) :
    ∃ g, f.removeChild p n = ⟨.ok (), g⟩ ∧ Removed f n g := by
  obtain ⟨g, done, size, contents, parents, locals⟩ :=
    removeChild_eq (consistent.lt_size child) child (consistent.nodup p)
  have lists (q : NodeId) : g.children q = (f.children q).filter (· ≠ n) := by
    rw [locals]
    split
    · next same => rw [same]
    · next other =>
      refine (List.filter_eq_self.mpr fun m member => ?_).symm
      simpa using fun same : m = n => other (consistent.parent_unique child (same ▸ member))
  refine ⟨g, done, ⟨?_, ?_⟩, size, contents, parents, lists⟩
  · intro m q
    rw [parents, lists, List.mem_filter]
    split
    · next same => simp [same]
    · next other => simp [other, consistent.linked m q]
  · intro q
    rw [lists]
    exact (consistent.nodup q).filter _

theorem Consistent.detach (consistent : f.Consistent) (n : NodeId) :
    ∃ g, f.detach n = ⟨.ok (), g⟩ ∧ Removed f n g := by
  unfold Forest.detach
  cases link : f.parent n with
  | none => exact ⟨f, rfl, .refl consistent link⟩
  | some p => exact consistent.removeChild ((consistent.linked n p).mp link)

end

/-- Nodes numbered so that the first is `n` and the others are new. -/
def lay {α : Type} (n fresh : NodeId) : List α → List (NodeId × α)
  | [] => []
  | a :: rest => (n, a) :: lay fresh (fresh + 1) rest

/-- The node `n` has become these texts, one behind the other; itself it is the first of them. -/
structure Spread (f : Forest) (n : NodeId) (texts : List String) (g : Forest) : Prop where
  consistent : g.Consistent
  size : g.size + 1 = f.size + texts.length
  shown : ∀ seat ∈ lay n f.size texts, g.content seat.1 = .text seat.2
  content : ∀ m < f.size, m ≠ n → g.content m = f.content m
  children : ∀ q, g.children q = inPlaceOf n ((lay n f.size texts).map Prod.fst) (f.children q)

section
variable {f g h : Forest} {n : Nat} {data : String}

theorem inPlaceOf_self (children : List NodeId) : inPlaceOf n [n] children = children := by
  unfold inPlaceOf
  have same : (fun c => if c = n then [n] else [c]) = fun c : NodeId => [c] := by
    funext c
    split <;> simp_all
  rw [same, List.flatMap_singleton']

theorem Spread.refl (consistent : f.Consistent) (text : f.content n = .text data) :
    Spread f n [data] f where
  consistent := consistent
  size := rfl
  shown := by simpa [lay] using text
  content := fun _ _ _ => rfl
  children := fun q => (inPlaceOf_self _).symm

theorem Spread.first {text : String} {texts : List String} (spread : Spread f n (text :: texts) g) :
    g.content n = .text text := spread.shown (n, text) List.mem_cons_self

theorem Spread.second {first text : String} {texts : List String}
    (spread : Spread f n (first :: text :: texts) g) : g.content f.size = .text text :=
  spread.shown (f.size, text) (List.mem_cons_of_mem _ List.mem_cons_self)

/-- The second of two texts becomes others in turn. -/
theorem Spread.trans {first second : String} {texts : List String} (consistent : f.Consistent)
    (here : n < f.size)
    (front : Spread f n [first, second] g) (back : Spread g f.size texts h) :
    Spread f n (first :: texts) h := by
  have size : g.size = f.size + 1 := by simpa using front.size
  have seats : lay n f.size (first :: texts) = (n, first) :: lay f.size g.size texts := by
    rw [size]; rfl
  refine ⟨back.consistent, ?_, ?_, ?_, ?_⟩
  · have := back.size
    rw [List.length_cons]
    omega
  · intro seat member
    rw [seats] at member
    rcases List.mem_cons.mp member with rfl | later
    · rw [back.content _ (by omega) (by omega), front.first]
    · exact back.shown seat later
  · intro m lt other
    rw [back.content m (by omega) (by omega), front.content m lt other]
  · intro q
    have fresh : f.size ∉ f.children q := fun member =>
      Nat.lt_irrefl _ (consistent.lt_size member)
    rw [back.children, front.children, seats]
    exact inPlaceOf_inPlaceOf (Nat.ne_of_lt here) fresh

/-- The text `n` keeps the first characters, and a new text that is still detached has the others.
-/
def halved (n : NodeId) (first second : String) (f : Forest) : Forest :=
  (f.add (.text second)).2.mapContent n (·.setText first)

section
variable {first second : String}

theorem size_halved : (f.halved n first second).size = f.size + 1 := by simp [halved]

theorem parent_halved (m : NodeId) : (f.halved n first second).parent m = f.parent m := by
  simp [halved, parent_add]

theorem children_halved (q : NodeId) : (f.halved n first second).children q = f.children q := by
  simp [halved, children_add]

theorem content_halved (text : f.content n = .text data) (m : NodeId) :
    (f.halved n first second).content m = if m = n then .text first
      else if m = f.size then .text second else f.content m := by
  have here : n < f.size := lt_size_of_content (by simp [text])
  have inside : n < (f.add (.text second)).2.size := by simp; omega
  simp only [halved, content_mapContent _ inside, content_add, text, Nat.ne_of_lt here, if_false,
    Content.setText]

theorem Consistent.halved (consistent : f.Consistent) : (f.halved n first second).Consistent :=
  consistent.congr parent_halved children_halved

end

section
variable {head tail : List Char} {offset : Int}

/-- A text without a parent is cut, and what is behind the cut has no parent either. -/
theorem split_detached (text : f.content n = .text data)
    (cut : Text.cut data.toList offset = .ok (head, tail)) (link : f.parent n = none) :
    f.split n offset =
      ⟨.ok f.size, f.halved n (String.ofList head) (String.ofList tail)⟩ := by
  have held : (f.content n).data = data := by rw [text]; rfl
  have parent : ((f.add (.text (String.ofList tail))).2.mapContent n
      (·.setText (String.ofList head))).parent n = f.parent n := parent_halved n
  simp only [split, held, cut, parent, link]
  rfl

/-- What is behind the cut becomes the next sibling. -/
theorem split_linked (text : f.content n = .text data)
    (cut : Text.cut data.toList offset = .ok (head, tail)) {p : NodeId}
    (link : f.parent n = some p) :
    f.split n offset = ((f.halved n (String.ofList head) (String.ofList tail)).insertAfter p n
      f.size).andThen fun _ g => ⟨.ok f.size, g⟩ := by
  have held : (f.content n).data = data := by rw [text]; rfl
  have parent : ((f.add (.text (String.ofList tail))).2.mapContent n
      (·.setText (String.ofList head))).parent n = f.parent n := parent_halved n
  simp only [split, held, cut, parent, link]
  rfl

/-- A cut inside the text succeeds; the text keeps what is before and a new one behind it has the
rest. -/
theorem Consistent.split (consistent : f.Consistent) (text : f.content n = .text data)
    (cut : Text.cut data.toList offset = .ok (head, tail)) :
    ∃ g, f.split n offset = ⟨.ok f.size, g⟩ ∧
      Spread f n [String.ofList head, String.ofList tail] g := by
  have here : n < f.size := lt_size_of_content (by simp [text])
  have alone : f.parent f.size = none := by
    rw [parent, cell_of_size_le (Nat.le_refl _)]; rfl
  generalize made_eq : f.halved n (String.ofList head) (String.ofList tail) = made
  have size : made.size = f.size + 1 := by rw [← made_eq, size_halved]
  have lists (q : NodeId) : made.children q = f.children q := by rw [← made_eq, children_halved]
  have steady : made.Consistent := made_eq ▸ consistent.halved
  have shown : ∀ seat ∈ lay n f.size [String.ofList head, String.ofList tail],
      made.content seat.1 = .text seat.2 := by
    simp [lay, ← made_eq, content_halved text, Nat.ne_of_gt here]
  have others : ∀ m < f.size, m ≠ n → made.content m = f.content m := by
    intro m lt other
    simp [← made_eq, content_halved text, other, Nat.ne_of_lt lt]
  cases link : f.parent n with
  | none =>
    refine ⟨made, by rw [split_detached text cut link, made_eq], steady, by simp [size], shown,
      others, ?_⟩
    intro q
    rw [lists, inPlaceOf_of_notMem (consistent.notMem_of_detached link)]
  | some p =>
    have detached : made.parent f.size = none := by rw [← made_eq, parent_halved, alone]
    have child : n ∈ made.children p := by
      rw [lists]; exact (consistent.linked n p).mp link
    have above : p < made.size := lt_size_of_mem_children child
    refine ⟨made.attach p f.size (·.insertIdx ((made.children p).idxOf n + 1) f.size), ?_, ?_,
      by simp [size], fun seat member => by rw [content_attach]; exact shown seat member,
      fun m lt other => by rw [content_attach]; exact others m lt other, ?_⟩
    · rw [split_linked text cut link, made_eq]
      simp only [insertAfter, Forest.detach, detached, Outcome.andThen,
        Consistent.index_eq child]
    · refine steady.attach detached (by omega) above (perm_insertIdx ?_)
      exact List.idxOf_lt_length_of_mem child
    · intro q
      rw [children_attach above]
      split
      · next same =>
        rw [insertIdx_eq_inPlaceOf child (steady.nodup p), same, lists]
        rfl
      · next other =>
        rw [lists, inPlaceOf_of_notMem]
        intro member
        exact other (consistent.parent_unique ((consistent.linked n p).mp link) member)

end

/-- The characters of the first text are replaced. -/
theorem Spread.setText {first second : String} (here : n < f.size)
    (spread : Spread f n [first, second] g) (data : String) :
    Spread f n [data, second] (g.mapContent n (·.setText data)) := by
  have size : g.size = f.size + 1 := by simpa using spread.size
  have content (m : NodeId) := content_mapContent (f := g) (m := m) (·.setText data)
    (show n < g.size by omega)
  refine ⟨spread.consistent.mapContent _, by simp [size], ?_, ?_, ?_⟩
  · intro seat member
    obtain rfl | rfl : seat = (n, data) ∨ seat = (f.size, second) := by simpa [lay] using member
    · rw [content, if_pos rfl, spread.first]
      rfl
    · rw [content, if_neg (Nat.ne_of_gt here), spread.second]
  · intro m lt other
    rw [content, if_neg other, spread.content m lt other]
  · intro q
    rw [children_mapContent]
    exact spread.children q

end

end Forest
end LiveTemplate
