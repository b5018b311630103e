import LiveTemplate.Proofs.Forest.Moves
import LiveTemplate.Proofs.Forest.Shown

/-! Copies and walks of shown trees. A copy is made of new nodes and disturbs no old one; the walk
over a shown tree meets the nodes that show its texts and elements, in their order. -/
namespace LiveTemplate.Forest

mutual

/-- The nodes that show the texts and elements which a walk over the tree meets. -/
def met (f : Forest) (n : NodeId) : Node → List NodeId
  | .text _ => [n]
  | .element _ _ _ cs => n :: metAmong f (f.children n) cs
  | .fragment cs => metAmong f (f.children n) cs
  | .comment _ | .bare | .bareParent _ => []

def metAmong (f : Forest) : List NodeId → List Node → List NodeId
  | n :: ns, t :: ts => met f n t ++ metAmong f ns ts
  | _, _ => []

end

/-- The walk over a forest: the pending nodes are taken from the front, and what is below a node
goes before the rest. `fuel` bounds how many nodes are taken. -/
def walkStack (f : Forest) : (fuel : Nat) → List NodeId → List NodeId
  | 0, _ => []
  | _, [] => []
  | fuel + 1, n :: stack => match f.content n with
    | .text _ => n :: walkStack f fuel stack
    | .element .. => n :: walkStack f fuel (f.children n ++ stack)
    | .fragment => walkStack f fuel (f.children n ++ stack)
    | .comment _ | .bare | .bareParent => walkStack f fuel stack

section
variable {f g : Forest} {ns ms : List NodeId} {ts us : List Node}

theorem metAmong_append (shown : ShowsAll f ns ts) :
    metAmong f (ns ++ ms) (ts ++ us) = metAmong f ns ts ++ metAmong f ms us := by
  induction ns generalizing ts with
  | nil => cases shown; simp [metAmong]
  | cons n ns ih =>
    cases shown with
    | cons first rest => simp [metAmong, ih rest]

theorem walkStack_eq_metAmong {fuel : Nat} (shown : ShowsAll f ns ts)
    (enough : Node.sizes ts ≤ fuel) : walkStack f fuel ns = metAmong f ns ts := by
  induction fuel generalizing ns ts with
  | zero =>
    cases shown with
    | nil => rfl
    | @cons n t ns ts first rest =>
      have := t.size_eq
      simp only [Node.sizes] at enough
      omega
  | succ fuel ih =>
    cases shown with
    | nil => rfl
    | @cons n t ns ts first rest =>
      obtain ⟨content, below⟩ := first
      rw [Node.sizes, t.size_eq] at enough
      cases t with
      | text data =>
        rw [walkStack, content, metAmong, met]
        exact congrArg _ (ih rest (by omega))
      | element tag attributes properties cs =>
        change 1 + Node.sizes cs + Node.sizes ts ≤ fuel + 1 at enough
        change ShowsAll f (f.children n) cs at below
        rw [walkStack, content, metAmong, met, List.cons_append, ← metAmong_append below]
        exact congrArg _ (ih (below.append rest) (by simp [Node.sizes_append]; omega))
      | fragment cs =>
        change 1 + Node.sizes cs + Node.sizes ts ≤ fuel + 1 at enough
        change ShowsAll f (f.children n) cs at below
        rw [walkStack, content, metAmong, met, ← metAmong_append below]
        exact ih (below.append rest) (by simp [Node.sizes_append]; omega)
      | comment data | bare | bareParent cs =>
        rw [walkStack, content, metAmong, met]
        exact ih rest (by omega)

/-- The nodes of the first forest have their contents and children in the second. -/
structure Kept (f g : Forest) : Prop where
  size : f.size ≤ g.size
  content : ∀ m < f.size, g.content m = f.content m
  children : ∀ m < f.size, g.children m = f.children m

theorem Kept.refl (f : Forest) : Kept f f := ⟨Nat.le_refl _, fun _ _ => rfl, fun _ _ => rfl⟩

theorem Kept.trans {h : Forest} (first : Kept f g) (second : Kept g h) : Kept f h where
  size := Nat.le_trans first.size second.size
  content := fun m lt => by
    rw [second.content m (Nat.lt_of_lt_of_le lt first.size), first.content m lt]
  children := fun m lt => by
    rw [second.children m (Nat.lt_of_lt_of_le lt first.size), first.children m lt]

mutual

theorem Shows.kept {f g : Forest} {n : NodeId} {t : Node} (kept : Kept f g) : Shows f n t →
    t.isClonable = true → Shows g n t ∧ met g n t = met f n t
  | .intro content below, clonable => by
    have own : Shows f n t := .intro content below
    have inside := own.lt_size clonable
    have children := kept.children n inside
    obtain ⟨shown, among⟩ := ShowsAll.kept kept below (Node.clonable_iff.mp clonable).2
    rw [← children] at shown
    refine ⟨.intro ((kept.content n inside).trans content) shown, ?_⟩
    cases t with
    | element tag attributes properties cs => rw [met, met, children]; exact congrArg _ among
    | fragment cs => rw [met, met, children]; exact among
    | _ => rfl

theorem ShowsAll.kept {f g : Forest} {ns : List NodeId} {ts : List Node} (kept : Kept f g) :
    ShowsAll f ns ts → Node.areClonable ts = true →
      ShowsAll g ns ts ∧ metAmong g ns ts = metAmong f ns ts
  | .nil, _ => ⟨.nil, rfl⟩
  | @ShowsAll.cons _ _ t _ ts first rest, clonable => by
    obtain ⟨here, later⟩ : t.isClonable = true ∧ Node.areClonable ts = true := by
      simpa [Node.areClonable] using clonable
    obtain ⟨shown, same⟩ := Shows.kept kept first here
    obtain ⟨others, sames⟩ := ShowsAll.kept kept rest later
    exact ⟨.cons shown others, by rw [metAmong, metAmong, same, sames]⟩

end

end

section
variable {f : Forest} {n : Nat} {children : List NodeId}

/-- `g` is `f` with one more node, which has these children. -/
structure Made (f : Forest) (content : Content Value) (children : List NodeId) (g : Forest) :
    Prop where
  consistent : g.Consistent
  size : g.size = f.size + 1
  parent : ∀ m, g.parent m = if m ∈ children then some f.size else f.parent m
  content : ∀ m, g.content m = if m = f.size then content else f.content m
  children : ∀ m, g.children m = if m = f.size then children else f.children m

/-- Nodes that stand nowhere leave no list. -/
theorem Consistent.construct (consistent : f.Consistent) (content : Content Value)
    (here : ∀ c ∈ children, c < f.size) (alone : ∀ c ∈ children, f.parent c = none)
    (once : children.Nodup) :
    ∃ g, f.construct content children = ⟨.ok f.size, g⟩ ∧ Made f content children g := by
  obtain ⟨g, done, sound, adopting⟩ := consistent.construct_adopting content here once
  refine ⟨g, done, sound, adopting.size, adopting.parent, adopting.content, fun m => ?_⟩
  have kept : (f.children m).filter (· ∉ children) = f.children m := by
    refine List.filter_eq_self.mpr fun c member => ?_
    simpa using fun listed => consistent.notMem_of_detached (alone c listed) member
  rw [adopting.children, kept]

end

/-- What a copy is: new nodes that show the same trees, belong to nothing and are met once each. -/
structure Copied (f : Forest) (ts : List Node) (ns : List NodeId) (g : Forest) : Prop where
  consistent : g.Consistent
  size : g.size = f.size + Node.sizes ts
  kept : Kept f g
  parent : ∀ m < f.size, g.parent m = f.parent m
  shows : ShowsAll g ns ts
  fresh : ∀ n ∈ ns, f.size ≤ n ∧ n < g.size
  alone : ∀ n ∈ ns, g.parent n = none
  once : ns.Nodup
  metFresh : ∀ m ∈ metAmong g ns ts, f.size ≤ m ∧ m < g.size
  metOnce : (metAmong g ns ts).Nodup

section
variable {f g h : Forest} {t : Node} {ts : List Node} {ns ms : List NodeId} {n : NodeId}

theorem Copied.nil (consistent : f.Consistent) : Copied f [] [] f where
  consistent := consistent
  size := rfl
  kept := .refl f
  parent := fun _ _ => rfl
  shows := .nil
  fresh := List.forall_mem_nil _
  alone := List.forall_mem_nil _
  once := .nil
  metFresh := List.forall_mem_nil _
  metOnce := .nil

theorem Copied.append {us : List Node} (first : Copied f ts ns g) (rest : Copied g us ms h)
    (clonable : Node.areClonable ts = true) : Copied f (ts ++ us) (ns ++ ms) h := by
  obtain ⟨shows, met⟩ := first.shows.kept rest.kept clonable
  have grown := first.kept.size
  have grown' := rest.kept.size
  have apart : ∀ a, (f.size ≤ a ∧ a < g.size) → ∀ b, (g.size ≤ b ∧ b < h.size) → a ≠ b := by
    rintro a ⟨-, lt⟩ b ⟨le, -⟩ rfl
    exact Nat.lt_irrefl _ (Nat.lt_of_lt_of_le lt le)
  constructor
  · exact rest.consistent
  · rw [rest.size, first.size, Node.sizes_append, Nat.add_assoc]
  · exact first.kept.trans rest.kept
  · intro m lt
    rw [rest.parent m (Nat.lt_of_lt_of_le lt grown), first.parent m lt]
  · exact shows.append rest.shows
  · refine List.forall_mem_append.mpr ⟨fun n member => ?_, fun n member => ?_⟩
    · exact ⟨(first.fresh n member).1, Nat.lt_of_lt_of_le (first.fresh n member).2 grown'⟩
    · exact ⟨Nat.le_trans grown (rest.fresh n member).1, (rest.fresh n member).2⟩
  · refine List.forall_mem_append.mpr ⟨fun n member => ?_, rest.alone⟩
    rw [rest.parent n (first.fresh n member).2, first.alone n member]
  · exact List.nodup_append.mpr ⟨first.once, rest.once, fun a inFirst b inRest =>
      apart a (first.fresh a inFirst) b (rest.fresh b inRest)⟩
  · rw [metAmong_append shows, met]
    refine List.forall_mem_append.mpr ⟨fun n member => ?_, fun n member => ?_⟩
    · exact ⟨(first.metFresh n member).1, Nat.lt_of_lt_of_le (first.metFresh n member).2 grown'⟩
    · exact ⟨Nat.le_trans grown (rest.metFresh n member).1, (rest.metFresh n member).2⟩
  · rw [metAmong_append shows, met]
    exact List.nodup_append.mpr ⟨first.metOnce, rest.metOnce, fun a inFirst b inRest =>
      apart a (first.metFresh a inFirst) b (rest.metFresh b inRest)⟩

/-- The copies of the children get a new node above them. -/
theorem Copied.parent_of_made (below : Copied f t.children ms g)
    (made : Made g t.content ms h) (clonable : t.isClonable = true) :
    Copied f [t] [g.size] h := by
  have size := t.size_eq
  have grown := below.kept.size
  have kept : Kept g h := by
    refine ⟨by rw [made.size]; exact Nat.le_succ _, fun m lt => ?_, fun m lt => ?_⟩
    · rw [made.content, if_neg (Nat.ne_of_lt lt)]
    · rw [made.children, if_neg (Nat.ne_of_lt lt)]
  obtain ⟨shows, met⟩ := below.shows.kept kept (Node.clonable_iff.mp clonable).2
  have content : h.content g.size = t.content := by rw [made.content, if_pos rfl]
  have children : h.children g.size = ms := by rw [made.children, if_pos rfl]
  have shown : Shows h g.size t := .intro content (by rw [children]; exact shows)
  have part : (metAmong h [g.size] [t]).Sublist (g.size :: metAmong g ms t.children) := by
    rw [show metAmong h [g.size] [t] = Forest.met h g.size t by simp [metAmong], ← met]
    cases t with
    | element tag attributes properties cs =>
      rw [Forest.met, children]
      exact List.Sublist.refl _
    | fragment cs =>
      rw [Forest.met, children]
      exact List.sublist_cons_self _ _
    | text data => exact (List.nil_sublist _).cons_cons _
    | _ => exact List.nil_sublist _
  constructor
  · exact made.consistent
  · rw [made.size, below.size, Node.sizes, Node.sizes, size]
    omega
  · exact below.kept.trans kept
  · intro m lt
    rw [made.parent, if_neg fun member => Nat.lt_irrefl _
      (Nat.lt_of_lt_of_le lt (below.fresh m member).1), below.parent m lt]
  · exact .cons shown .nil
  · exact List.forall_mem_singleton.mpr ⟨grown, by rw [made.size]; exact Nat.lt_succ_self _⟩
  · refine List.forall_mem_singleton.mpr ?_
    rw [made.parent, if_neg fun member => Nat.lt_irrefl _ (below.fresh _ member).2]
    exact congrArg Cell.parent (cell_of_size_le (Nat.le_refl _))
  · exact List.nodup_singleton _
  · intro m member
    rw [made.size]
    rcases List.mem_cons.mp (part.subset member) with rfl | inner
    · exact ⟨grown, Nat.lt_succ_self _⟩
    · exact ⟨(below.metFresh m inner).1, Nat.lt_succ_of_lt (below.metFresh m inner).2⟩
  · refine part.nodup (List.nodup_cons.mpr ⟨fun member => ?_, below.metOnce⟩)
    exact Nat.lt_irrefl _ (below.metFresh _ member).2

mutual

/-- A shown tree that may be copied is copied, given a fuel of its height. Other nodes may have been
made since it was looked at. -/
theorem Shows.clone {f₀ : Forest} {n : NodeId} {t : Node} : Shows f₀ n t →
    t.isClonable = true → ∀ {fuel : Nat}, t.height ≤ fuel → ∀ {f : Forest}, Kept f₀ f →
      f.Consistent → ∃ m g, f.clone fuel n = ⟨.ok m, g⟩ ∧ Copied f [t] [m] g
  | .intro content below, clonable, fuel, enough, f, kept, consistent => by
    have own : Shows f₀ n t := .intro content below
    obtain ⟨known, inner⟩ := Node.clonable_iff.mp clonable
    rw [t.height_eq] at enough
    obtain ⟨fuel, rfl⟩ : ∃ less, fuel = less + 1 := ⟨fuel - 1, by omega⟩
    have inside := own.lt_size clonable
    have same : f.content n = t.content := (kept.content n inside).trans content
    obtain ⟨ms, g, mades, copies⟩ := ShowsAll.cloneAll below inner (Nat.le_of_succ_le_succ enough)
      kept consistent
    obtain ⟨h, constructed, made⟩ := copies.consistent.construct t.content
      (fun c member => (copies.fresh c member).2) copies.alone copies.once
    refine ⟨g.size, h, ?_, copies.parent_of_made made clonable⟩
    rw [Forest.clone, same, if_pos known, kept.children n inside, mades]
    exact constructed

theorem ShowsAll.cloneAll {f₀ : Forest} {ns : List NodeId} {ts : List Node} : ShowsAll f₀ ns ts →
    Node.areClonable ts = true → ∀ {fuel : Nat}, Node.heights ts ≤ fuel → ∀ {f : Forest},
      Kept f₀ f → f.Consistent → ∃ ms g, f.cloneAll fuel ns = ⟨.ok ms, g⟩ ∧ Copied f ts ms g
  | .nil, _, _, _, f, _, consistent => ⟨[], f, by simp [Forest.cloneAll], .nil consistent⟩
  | @ShowsAll.cons _ _ t _ ts first rest, clonable, fuel, enough, f, kept, consistent => by
    obtain ⟨here, later⟩ : t.isClonable = true ∧ Node.areClonable ts = true := by
      simpa [Node.areClonable] using clonable
    obtain ⟨high, higher⟩ := Nat.max_le.mp (show max t.height (Node.heights ts) ≤ fuel from enough)
    obtain ⟨m, g, made, copied⟩ := Shows.clone first here high kept consistent
    obtain ⟨ms, h, mades, copies⟩ := ShowsAll.cloneAll rest later higher (kept.trans copied.kept)
      copied.consistent
    refine ⟨m :: ms, h, ?_, copied.append copies (by simp [Node.areClonable, here])⟩
    rw [Forest.cloneAll, made]
    simp only [Outcome.andThen, mades]

end

end

end LiveTemplate.Forest
