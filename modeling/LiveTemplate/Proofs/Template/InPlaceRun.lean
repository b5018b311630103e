import LiveTemplate.Proofs.Template.InPlace
import LiveTemplate.Proofs.Template.Labels

/-! A whole compilation in place. Each node that the walk met is compiled once, wherever the others
have got to by then; what stands in the end is the content that compiling the source by recursion
yields, under the same numbers. -/
namespace LiveTemplate

namespace Forest

section
variable {α : Type} {n k fresh : Nat} {a : α} {items : List α}

theorem of_mem_lay (seat : (k, a) ∈ lay n fresh items) : k = n ∨ fresh ≤ k := by
  induction items generalizing n fresh with
  | nil => cases seat
  | cons first rest ih =>
    rcases List.mem_cons.mp seat with here | later
    · exact .inl (congrArg Prod.fst here)
    · rcases ih later with rfl | le
      · exact .inr (Nat.le_refl _)
      · exact .inr (Nat.le_of_succ_le le)

theorem map_snd_lay (n fresh : Nat) (items : List α) :
    (lay n fresh items).map Prod.snd = items := by
  induction items generalizing n fresh with
  | nil => rfl
  | cons first rest ih => exact congrArg (first :: ·) (ih fresh (fresh + 1))

/-- No node is given twice. -/
theorem find?_lay_iff (new : n < fresh) :
    Entries.find? k (lay n fresh items) = some a ↔ (k, a) ∈ lay n fresh items := by
  refine ⟨Entries.mem_of_find?, fun seat => ?_⟩
  induction items generalizing n fresh with
  | nil => cases seat
  | cons first rest ih =>
    rcases List.mem_cons.mp seat with here | later
    · cases here
      simp [lay, Entries.find?]
    · have other : n ≠ k := by
        rcases of_mem_lay later with rfl | le
        · exact Nat.ne_of_lt new
        · omega
      rw [lay, Entries.find?, if_neg other]
      exact ih (Nat.lt_succ_self _) later

end

end Forest

namespace InPlace

open Compile (Piece staticAttributes)

/-- The binding lists that a node of this content is given. -/
def labelsAt (config : Config) : Content Value → List (List Descriptor)
  | .text data => (Compile.pieces config data).map Piece.bindings
  | .element _ attributes _ => [Compile.boundAttributes config attributes]
  | _ => []

/-- The notes of a compiler that is done with some nodes of the forest it began with. -/
def notesOn (config : Config) (f₀ : Forest) (done emptied : List NodeId) : Notes :=
  noted (done.flatMap fun m => labelsAt config (f₀.content m)) emptied

/-- Where the compiler has got to when some nodes of the forest it began with are done. Each node
has become the nodes at its `seats`, which are the node itself unless it was a text, and `role` says
which piece of a text a node holds. -/
structure Reached (config : Config) (f₀ : Forest) (done : List NodeId)
    (seats : NodeId → List NodeId) (role : NodeId → Option Piece) (emptied : List NodeId)
    (f : Forest) : Prop where
  consistent : f.Consistent
  size : f₀.size ≤ f.size
  children : ∀ q, f.children q = (f₀.children q).flatMap seats
  whole : ∀ m < f₀.size, (m ∈ done → ∀ data, f₀.content m ≠ .text data) →
    seats m = [m] ∧ role m = none ∧ f.content m =
      if m ∈ done then (f₀.content m).mapAttributes (staticAttributes config) else f₀.content m
  cut : ∀ m ∈ done, ∀ data, f₀.content m = .text data →
    (seats m).map role = (allPieces config data).map some
  piece : ∀ k p, role k = some p → f.content k = .text (pieceText p) ∧ f₀.children k = []
  emptied : ∀ k, k ∈ emptied ↔ ∃ p, role k = some p ∧ isEmptyStatic p = true

section
variable {config : Config} {f₀ f : Forest} {done : List NodeId} {seats : NodeId → List NodeId}
  {role : NodeId → Option Piece} {emptied : List NodeId} {n : Nat}

theorem Reached.start (config : Config) (consistent : f₀.Consistent) :
    Reached config f₀ [] (fun m => [m]) (fun _ => none) [] f₀ where
  consistent := consistent
  size := Nat.le_refl _
  children := fun q => by simp
  whole := fun m _ _ => by simp
  cut := fun _ member => absurd member List.not_mem_nil
  piece := fun _ _ held => by cases held
  emptied := fun k => by simp

theorem Reached.own (reached : Reached config f₀ done seats role emptied f) (waiting : n ∉ done)
    (inside : n < f₀.size) : seats n = [n] ∧ role n = none ∧ f.content n = f₀.content n := by
  have own := reached.whole n inside fun member => absurd member waiting
  rwa [if_neg waiting] at own

/-- A node that is not a text is where it was, and loses its bound attributes if it has any. -/
theorem Reached.keep (reached : Reached config f₀ done seats role emptied f) (waiting : n ∉ done)
    (inside : n < f₀.size) (kind : ∀ data, f₀.content n ≠ .text data) {g : Forest}
    (consistent : g.Consistent) (size : g.size = f.size)
    (children : ∀ q, g.children q = f.children q)
    (content : ∀ m, g.content m =
      if m = n then (f₀.content n).mapAttributes (staticAttributes config) else f.content m) :
    Reached config f₀ (done ++ [n]) seats role emptied g := by
  obtain ⟨alone, unheld, -⟩ := reached.own waiting inside
  constructor
  · exact consistent
  · rw [size]; exact reached.size
  · intro q
    rw [children, reached.children]
  · intro m lt settled
    rw [content]
    by_cases same : m = n
    · subst same
      exact ⟨alone, unheld, by simp⟩
    · obtain ⟨seat, free, own⟩ := reached.whole m lt fun member =>
        settled (List.mem_append_left _ member)
      refine ⟨seat, free, ?_⟩
      rw [if_neg same, own]
      simp [same]
  · intro m member data text
    rcases List.mem_append.mp member with earlier | here
    · exact reached.cut m earlier data text
    · rw [List.mem_singleton.mp here] at text
      exact absurd text (kind data)
  · intro k p held
    have other : k ≠ n := fun same => by rw [same, unheld] at held; cases held
    rw [content, if_neg other]
    exact reached.piece k p held
  · exact reached.emptied

/-- The seats once `n` has become the pieces of `made`. -/
def seatsWith (made : List (NodeId × Piece)) (n : NodeId) (seats : NodeId → List NodeId) :
    NodeId → List NodeId :=
  fun m => if m = n then made.map Prod.fst else seats m

/-- The pieces of one more text are told by its own nodes, those of the others as before. -/
def roleWith (made : List (NodeId × Piece)) (role : NodeId → Option Piece) :
    NodeId → Option Piece :=
  fun k => (Entries.find? k made).or (role k)

theorem Reached.lt_of_role (reached : Reached config f₀ done seats role emptied f)
    (waiting : n ∉ done) (inside : n < f₀.size) {k : Nat} {p : Piece} (held : role k = some p) :
    k < f.size ∧ k ≠ n := by
  refine ⟨Forest.lt_size_of_content (by rw [(reached.piece k p held).1]; simp), ?_⟩
  rintro rfl
  rw [(reached.own waiting inside).2.1] at held
  cases held

theorem Reached.role_of_seat (reached : Reached config f₀ done seats role emptied f) {m k : Nat}
    (member : m ∈ done) {data : String} (text : f₀.content m = .text data) (seat : k ∈ seats m) :
    ∃ p, role k = some p := by
  have inner := List.mem_map_of_mem (f := role) seat
  rw [reached.cut m member data text] at inner
  obtain ⟨p, -, held⟩ := List.mem_map.mp inner
  exact ⟨p, held.symm⟩

/-- A node that waits is no seat of another. -/
theorem Reached.notMem_seats (reached : Reached config f₀ done seats role emptied f)
    (waiting : n ∉ done) (inside : n < f₀.size) {m : Nat} (lt : m < f₀.size) (other : m ≠ n) :
    n ∉ seats m := by
  intro seat
  by_cases cut : m ∈ done ∧ ∃ data, f₀.content m = .text data
  · obtain ⟨member, data, text⟩ := cut
    obtain ⟨p, held⟩ := reached.role_of_seat member text seat
    exact (reached.lt_of_role waiting inside held).2 rfl
  · have own := (reached.whole m lt fun member data text => cut ⟨member, data, text⟩).1
    rw [own] at seat
    exact other (List.mem_singleton.mp seat).symm

theorem Reached.roleWith_iff (reached : Reached config f₀ done seats role emptied f)
    (waiting : n ∉ done) (inside : n < f₀.size) (pieces : List Piece) {k : Nat} {p : Piece} :
    roleWith (Forest.lay n f.size pieces) role k = some p ↔
      (k, p) ∈ Forest.lay n f.size pieces ∨ role k = some p := by
  have new : n < f.size := Nat.lt_of_lt_of_le inside reached.size
  rw [← Forest.find?_lay_iff new, roleWith]
  cases found : Entries.find? k (Forest.lay n f.size pieces) with
  | none => simp
  | some q =>
    have free : role k ≠ some p := fun held => by
      obtain ⟨lt, other⟩ := reached.lt_of_role waiting inside held
      rcases Forest.of_mem_lay ((Forest.find?_lay_iff new).mp found) with same | le
      · exact other same
      · omega
    simp [free]

theorem Reached.roleWith_of_lt (reached : Reached config f₀ done seats role emptied f)
    (inside : n < f₀.size) (pieces : List Piece) {m : Nat} (lt : m < f₀.size) (other : m ≠ n) :
    roleWith (Forest.lay n f.size pieces) role m = role m := by
  have new : n < f.size := Nat.lt_of_lt_of_le inside reached.size
  have missing : Entries.find? m (Forest.lay n f.size pieces) = none := by
    by_contra found
    obtain ⟨q, found⟩ := Option.ne_none_iff_exists'.mp found
    rcases Forest.of_mem_lay ((Forest.find?_lay_iff new).mp found) with same | le
    · exact other same
    · exact Nat.lt_irrefl _ (Nat.lt_of_lt_of_le lt (Nat.le_trans reached.size le))
  rw [roleWith, missing, Option.none_or]

/-- The seats of a node are put where they belong when one more text is cut up. -/
theorem Reached.flatMap_seatsWith (reached : Reached config f₀ done seats role emptied f)
    (waiting : n ∉ done) (inside : n < f₀.size) (consistent : f₀.Consistent)
    (made : List (NodeId × Piece)) (q : NodeId) :
    Forest.inPlaceOf n (made.map Prod.fst) ((f₀.children q).flatMap seats) =
      (f₀.children q).flatMap (seatsWith made n seats) := by
  obtain ⟨alone, -, -⟩ := reached.own waiting inside
  rw [Forest.inPlaceOf, List.flatMap_assoc]
  refine List.flatMap_congr fun m child => ?_
  have lt := consistent.lt_size child
  by_cases same : m = n
  · subst same
    simp [alone, seatsWith]
  · rw [seatsWith, if_neg same]
    exact Forest.inPlaceOf_of_notMem (reached.notMem_seats waiting inside lt same)

/-- The seats of every text that is done hold its pieces, those of the one just cut up included. -/
theorem Reached.map_roleWith (reached : Reached config f₀ done seats role emptied f)
    (waiting : n ∉ done) (inside : n < f₀.size) {data : String} (text : f₀.content n = .text data)
    {m : Nat} (member : m ∈ done ++ [n]) {given : String} (old : f₀.content m = .text given) :
    (seatsWith (Forest.lay n f.size (allPieces config data)) n seats m).map
        (roleWith (Forest.lay n f.size (allPieces config data)) role) =
      (allPieces config given).map some := by
  by_cases same : m = n
  · subst same
    rw [text, Content.text.injEq] at old
    subst old
    have each : (Forest.lay m f.size (allPieces config data)).map
        (roleWith (Forest.lay m f.size (allPieces config data)) role ∘ Prod.fst) =
        (Forest.lay m f.size (allPieces config data)).map (some ∘ Prod.snd) :=
      List.map_congr_left fun seat member =>
        (reached.roleWith_iff waiting inside _).mpr (.inl member)
    rw [seatsWith, if_pos rfl, List.map_map, each, ← List.map_map, Forest.map_snd_lay]
  · have earlier : m ∈ done := by simpa [same] using member
    rw [seatsWith, if_neg same, ← reached.cut m earlier given old]
    refine List.map_congr_left fun k seat => ?_
    obtain ⟨p, held⟩ := reached.role_of_seat earlier old seat
    rw [held]
    exact (reached.roleWith_iff waiting inside _).mpr (.inr held)

/-- What was emptied are the empty static pieces, those of the text just cut up included. -/
theorem Reached.emptied_iff (reached : Reached config f₀ done seats role emptied f)
    (waiting : n ∉ done) (inside : n < f₀.size) (pieces : List Piece) (k : NodeId) :
    k ∈ emptied ++ vacant (Forest.lay n f.size pieces) ↔
      ∃ p, roleWith (Forest.lay n f.size pieces) role k = some p ∧ isEmptyStatic p = true := by
  simp only [List.mem_append, reached.emptied, vacant, List.mem_map, List.mem_filter,
    reached.roleWith_iff waiting inside]
  constructor
  · rintro (⟨p, held, empty⟩ | ⟨⟨k', p⟩, ⟨seat, empty⟩, rfl⟩)
    · exact ⟨p, .inr held, empty⟩
    · exact ⟨p, .inl seat, empty⟩
  · rintro ⟨p, seat | held, empty⟩
    · exact .inr ⟨(k, p), ⟨seat, empty⟩, rfl⟩
    · exact .inl ⟨p, held, empty⟩

/-- A text becomes its pieces. -/
theorem Reached.spread (reached : Reached config f₀ done seats role emptied f) (waiting : n ∉ done)
    (inside : n < f₀.size) {data : String} (text : f₀.content n = .text data)
    (leaf : f₀.children n = []) {g : Forest}
    (spread : Forest.Spread f n ((allPieces config data).map pieceText) g)
    (consistent : f₀.Consistent) :
    Reached config f₀ (done ++ [n])
      (seatsWith (Forest.lay n f.size (allPieces config data)) n seats)
      (roleWith (Forest.lay n f.size (allPieces config data)) role)
      (emptied ++ vacant (Forest.lay n f.size (allPieces config data))) g := by
  constructor
  · exact spread.consistent
  · have := spread.size
    have := reached.size
    simp only [List.length_map, allPieces, segments, List.length_append, List.length_singleton]
      at *
    omega
  · intro q
    rw [spread.children, reached.children, lay_map, List.map_map]
    exact reached.flatMap_seatsWith waiting inside consistent _ q
  · intro m lt settled
    have other : m ≠ n := by
      rintro rfl
      exact settled (List.mem_append_right _ (List.mem_singleton_self _)) data text
    obtain ⟨seat, unheld, own⟩ := reached.whole m lt fun member =>
      settled (List.mem_append_left _ member)
    refine ⟨by simp [seatsWith, other, seat],
      (reached.roleWith_of_lt inside _ lt other).trans unheld, ?_⟩
    rw [spread.content m (Nat.lt_of_lt_of_le lt reached.size) other, own]
    simp [other]
  · exact fun m member given old => reached.map_roleWith waiting inside text member old
  · intro k p held
    rcases (reached.roleWith_iff waiting inside _).mp held with seat | before
    · refine ⟨content_of_piece spread seat, ?_⟩
      rcases Forest.of_mem_lay seat with rfl | le
      · exact leaf
      · exact congrArg Cell.children
          (Forest.cell_of_size_le (Nat.le_trans reached.size le))
    · obtain ⟨lt, other⟩ := reached.lt_of_role waiting inside before
      rw [spread.content k lt other]
      exact reached.piece k p before
  · exact reached.emptied_iff waiting inside _

/-- What a listed node must be like to be compiled: a text has no children, and attributes have
names. -/
structure Fit (f₀ : Forest) (n : NodeId) : Prop where
  inside : n < f₀.size
  leaf : ∀ data, f₀.content n = .text data → f₀.children n = []
  named : (f₀.content n).attributes.Named

theorem notesOn_append (config : Config) (f₀ : Forest) (done emptied : List NodeId) (n : NodeId) :
    notesOn config f₀ (done ++ [n]) emptied =
      noted ((done.flatMap fun m => labelsAt config (f₀.content m)) ++
        labelsAt config (f₀.content n)) emptied := by
  rw [notesOn, List.flatMap_append, List.flatMap_singleton]

/-- Compiling one more node succeeds. -/
theorem Reached.step (reached : Reached config f₀ done seats role emptied f)
    (consistent : f₀.Consistent) (waiting : n ∉ done) (fit : Fit f₀ n) :
    ∃ seats role more g, compileNode config n (notesOn config f₀ done emptied) f =
        ⟨.ok (notesOn config f₀ (done ++ [n]) more), g⟩ ∧
      Reached config f₀ (done ++ [n]) seats role more g := by
  obtain ⟨inside, leaf, named⟩ := fit
  obtain ⟨-, -, same⟩ := reached.own waiting inside
  cases kind : f₀.content n with
  | text data =>
    obtain ⟨g, made, spread⟩ := compileText_eq config reached.consistent (same.trans kind)
      (done.flatMap fun m => labelsAt config (f₀.content m)) emptied
    refine ⟨_, _, _, g, ?_, reached.spread waiting inside kind (leaf data kind) spread consistent⟩
    rw [compileNode, same, kind, notesOn_append, kind]
    exact made
  | element tag attributes properties =>
    rw [kind] at named
    have content (m : Nat) := Forest.content_mapContent (f := f) (n := n) (m := m)
      (·.mapAttributes (staticAttributes config)) (Nat.lt_of_lt_of_le inside reached.size)
    refine ⟨seats, role, emptied, _, ?_, reached.keep waiting inside (by simp [kind])
      (reached.consistent.mapContent _) (Forest.size_mapContent _)
      (fun _ => Forest.children_mapContent _) fun m => by rw [content, same]⟩
    rw [compileNode, same, kind, notesOn_append, kind]
    exact compileElement_eq config named n f _ emptied
  | comment data | fragment | bare | bareParent =>
    refine ⟨seats, role, emptied, f, ?_, reached.keep waiting inside (by simp [kind])
      reached.consistent rfl (fun _ => rfl) fun m => ?_⟩
    · rw [compileNode, same, kind, notesOn_append, kind]
      simp [labelsAt, notesOn]
    · split
      · next here => rw [here, same, kind]; rfl
      · rfl

/-- So does compiling nodes one after the other. -/
theorem Reached.run (consistent : f₀.Consistent) {rest : List NodeId}
    (reached : Reached config f₀ done seats role emptied f) (once : (done ++ rest).Nodup)
    (fit : ∀ n ∈ rest, Fit f₀ n) :
    ∃ seats role more g, compileEach config rest (notesOn config f₀ done emptied) f =
        ⟨.ok (notesOn config f₀ (done ++ rest) more), g⟩ ∧
      Reached config f₀ (done ++ rest) seats role more g := by
  induction rest generalizing done seats role emptied f with
  | nil => exact ⟨seats, role, emptied, f, by simp [compileEach], by simpa using reached⟩
  | cons n rest ih =>
    obtain ⟨here, others⟩ := List.forall_mem_cons.mp fit
    have waiting : n ∉ done := fun member =>
      (List.nodup_append.mp once).2.2 n member n List.mem_cons_self rfl
    obtain ⟨seats, role, more, g, step, after⟩ := reached.step consistent waiting here
    rw [List.append_cons] at once
    obtain ⟨seats, role, all, h, later, end'⟩ := ih after once others
    rw [List.append_cons done n rest]
    refine ⟨seats, role, all, h, ?_, end'⟩
    rw [compileEach, step]
    exact later

/-- The emptied texts are taken from wherever they stand. -/
theorem detachEach_eq (consistent : f.Consistent) (ns : List NodeId) :
    ∃ g, detachEach ns f = ⟨.ok (), g⟩ ∧ g.Consistent ∧ (∀ m, g.content m = f.content m) ∧
      ∀ q, g.children q = (f.children q).filter (· ∉ ns) := by
  induction ns generalizing f with
  | nil => exact ⟨f, rfl, consistent, fun _ => rfl, fun q => by simp⟩
  | cons n rest ih =>
    obtain ⟨g, step, removed⟩ := consistent.detach n
    obtain ⟨h, later, sound, contents, lists⟩ := ih removed.consistent
    refine ⟨h, ?_, sound, fun m => by rw [contents, removed.content], fun q => ?_⟩
    · rw [detachEach, step]
      exact later
    · rw [lists, removed.children, List.filter_filter]
      exact List.filter_congr fun m _ => by simp [not_or, Bool.and_comm]

end

section
variable {config : Config} {f₀ : Forest} {done : List NodeId} {seats : NodeId → List NodeId}
  {role : NodeId → Option Piece} {emptied : List NodeId} {f g : Forest}

/-- What stands when all is done and the emptied texts are gone. -/
structure Cleared (emptied : List NodeId) (f g : Forest) : Prop where
  content : ∀ m, g.content m = f.content m
  children : ∀ q, g.children q = (f.children q).filter (· ∉ emptied)

/-- The pieces of a text that are left show the texts that it compiles to. -/
theorem Reached.shows_pieces (reached : Reached config f₀ done seats role emptied f)
    (cleared : Cleared emptied f g) {ks : List NodeId} {pieces : List Piece}
    (held : ks.map role = pieces.map some) :
    g.ShowsAll (ks.filter (· ∉ emptied)) ((kept pieces).map Piece.node) := by
  induction ks generalizing pieces with
  | nil =>
    cases pieces with
    | nil => exact .nil
    | cons p rest => cases held
  | cons k ks ih =>
    cases pieces with
    | nil => cases held
    | cons p rest =>
      obtain ⟨here, others⟩ := List.cons.inj held
      obtain ⟨content, leaf⟩ := reached.piece k p here
      have later := ih others
      have gone : k ∈ emptied ↔ isEmptyStatic p = true := by
        rw [reached.emptied]
        constructor
        · rintro ⟨q, same, empty⟩
          rw [here] at same
          rwa [Option.some.inj same]
        · exact fun empty => ⟨p, here, empty⟩
      have shown : g.Shows k p.node := by
        have children : g.children k = [] := by
          rw [cleared.children, reached.children, leaf]
          rfl
        refine .intro ?_ ?_
        · rw [cleared.content, content]
          cases p <;> rfl
        · rw [children]
          cases p <;> exact .nil
      cases empty : isEmptyStatic p with
      | true => simpa [kept, gone, empty] using later
      | false =>
        have : g.ShowsAll (k :: ks.filter (· ∉ emptied)) (p.node :: (kept rest).map Piece.node) :=
          .cons shown later
        simpa [kept, gone, empty] using this

mutual

theorem Reached.shows (reached : Reached config f₀ done seats role emptied f)
    (cleared : Cleared emptied f g) {n : NodeId} {t : Node} : f₀.Shows n t →
    t.isClonable = true → t.isText = false → (∀ m ∈ f₀.met n t, m ∈ done) →
      seats n = [n] ∧ n ∉ emptied ∧ ∃ result, Compile.compiled config t = [result] ∧
        g.Shows n result
  | .intro content below, clonable, kind, all => by
    have own : f₀.Shows n t := .intro content below
    have text (data : String) : f₀.content n ≠ .text data := fun same => by
      rw [content] at same
      cases t with
      | text given => cases kind
      | _ => cases same
    obtain ⟨alone, unheld, now⟩ := reached.whole n (own.lt_size clonable) fun _ => text
    have stays : n ∉ emptied := fun member => by
      obtain ⟨p, held, -⟩ := (reached.emptied n).mp member
      rw [unheld] at held
      cases held
    have children : g.children n = ((f₀.children n).flatMap seats).filter (· ∉ emptied) := by
      rw [cleared.children, reached.children]
    have inner := (Node.clonable_iff.mp clonable).2
    refine ⟨alone, stays, ?_⟩
    cases t with
    | text data => cases kind
    | element tag attributes properties cs =>
      have listed : n ∈ done := all n List.mem_cons_self
      have shown := Reached.showsAll reached cleared below inner fun m member =>
        all m (List.mem_cons_of_mem _ member)
      rw [← children] at shown
      refine ⟨_, rfl, .intro ?_ shown⟩
      rw [cleared.content, now, if_pos listed, content]
      rfl
    | fragment cs =>
      have shown := Reached.showsAll reached cleared below inner all
      rw [← children] at shown
      refine ⟨_, rfl, .intro ?_ shown⟩
      rw [cleared.content, now, content]
      split <;> rfl
    | comment data =>
      refine ⟨_, rfl, .intro ?_ ?_⟩
      · rw [cleared.content, now, content]
        split <;> rfl
      · rw [children, below.eq_nil]
        exact .nil
    | bare | bareParent cs => cases clonable

theorem Reached.showsAll (reached : Reached config f₀ done seats role emptied f)
    (cleared : Cleared emptied f g) {ns : List NodeId} {ts : List Node} : f₀.ShowsAll ns ts →
    Node.areClonable ts = true → (∀ m ∈ f₀.metAmong ns ts, m ∈ done) →
      g.ShowsAll ((ns.flatMap seats).filter (· ∉ emptied)) (Compile.compiledAll config ts)
  | .nil, _, _ => .nil
  | @Forest.ShowsAll.cons _ n t ns ts first rest, clonable, all => by
    obtain ⟨here, later⟩ : t.isClonable = true ∧ Node.areClonable ts = true := by
      simpa [Node.areClonable] using clonable
    obtain ⟨ours, others⟩ := List.forall_mem_append.mp all
    have behind := Reached.showsAll reached cleared rest later others
    have front : g.ShowsAll ((seats n).filter (· ∉ emptied)) (Compile.compiled config t) := by
      cases kind : t.isText with
      | true =>
        cases t with
        | text data =>
          obtain ⟨content, -⟩ := first
          have held := reached.cut n (ours n (List.mem_singleton_self _)) data content
          have shown := reached.shows_pieces cleared held
          rwa [kept_allPieces] at shown
        | _ => cases kind
      | false =>
        obtain ⟨alone, stays, result, made, shown⟩ :=
          Reached.shows reached cleared first here kind ours
        rw [alone, made]
        simpa [stays] using Forest.ShowsAll.cons shown .nil
    rw [List.flatMap_cons, List.filter_append]
    exact front.append behind

end

mutual

/-- The binding lists of a tree are those of the nodes that the walk over it meets. -/
theorem labels_of_met (config : Config) {f : Forest} {n : NodeId} {t : Node} : f.Shows n t →
    ((f.met n t).flatMap fun m => labelsAt config (f.content m)) = Compile.labels config t
  | .intro content below => by
    cases t with
    | text data =>
      simp [Forest.met, content, labelsAt, Node.content, Compile.labels]
    | element tag attributes properties cs =>
      rw [Forest.met, List.flatMap_cons, content]
      exact congrArg (_ :: ·) (labels_of_metAmong config below)
    | fragment cs => exact labels_of_metAmong config below
    | comment data | bare | bareParent cs => rfl

theorem labels_of_metAmong (config : Config) {f : Forest} {ns : List NodeId} {ts : List Node} :
    f.ShowsAll ns ts → ((f.metAmong ns ts).flatMap fun m => labelsAt config (f.content m)) =
      Compile.labelsOf config ts
  | .nil => rfl
  | .cons first rest => by
    rw [Forest.metAmong, List.flatMap_append, labels_of_met config first,
      labels_of_metAmong config rest]
    rfl

end

mutual

/-- The nodes that the walk meets can be compiled. -/
theorem fit_of_met {f : Forest} {n : NodeId} {t : Node} : f.Shows n t → t.isClonable = true →
    t.AllAttributes Attributes.Named → ∀ m ∈ f.met n t, Fit f m
  | .intro content below, clonable, named => by
    have own : f.Shows n t := .intro content below
    have inside := own.lt_size clonable
    have inner := (Node.clonable_iff.mp clonable).2
    cases t with
    | text data =>
      refine List.forall_mem_singleton.mpr ⟨inside, fun _ _ => below.eq_nil, ?_⟩
      rw [content]
      exact List.forall_mem_nil _
    | element tag attributes properties cs =>
      obtain ⟨here, others⟩ := named.of_element
      refine List.forall_mem_cons.mpr ⟨⟨inside, fun data text => ?_, ?_⟩,
        fit_of_metAmong below inner others⟩
      · rw [content] at text
        cases text
      · rw [content]
        exact here
    | fragment cs => exact fit_of_metAmong below inner named.of_fragment
    | comment data | bare | bareParent cs => exact List.forall_mem_nil _

theorem fit_of_metAmong {f : Forest} {ns : List NodeId} {ts : List Node} : f.ShowsAll ns ts →
    Node.areClonable ts = true → (∀ t ∈ Node.allNodesOf ts, t.attributes.Named) →
      ∀ m ∈ f.metAmong ns ts, Fit f m
  | .nil, _, _ => List.forall_mem_nil _
  | @Forest.ShowsAll.cons _ _ t _ ts first rest, clonable, named => by
    obtain ⟨here, later⟩ : t.isClonable = true ∧ Node.areClonable ts = true := by
      simpa [Node.areClonable] using clonable
    obtain ⟨ours, others⟩ := Node.AllAttributes.of_cons named
    exact List.forall_mem_append.mpr
      ⟨fit_of_met first here ours, fit_of_metAmong rest later others⟩

end

/-- What has been copied is compiled where it stands. -/
theorem compileTree_eq (config : Config) {source : Node} (fit : source.Compilable)
    (consistent : f₀.Consistent) {root : NodeId} (shown : f₀.Shows root source)
    (enough : source.size ≤ f₀.size) (once : (f₀.met root source).Nodup) :
    ∃ emptied g result, compileTree config root f₀ =
        ⟨.ok (noted (Compile.labels config source) emptied), g⟩ ∧ g.Consistent ∧
      Compile.compiled config source = [result] ∧ g.Shows root result := by
  have walked : f₀.walkStack f₀.size [root] = f₀.met root source := by
    rw [Forest.walkStack_eq_metAmong (.cons shown .nil) (by simpa [Node.sizes] using enough)]
    simp [Forest.metAmong]
  obtain ⟨seats, role, emptied, f, run, reached⟩ :=
    (Reached.start config consistent).run consistent
      (by simpa using once) (fit_of_met shown fit.clonable fit.named)
  obtain ⟨g, detached, sound, contents, lists⟩ := detachEach_eq reached.consistent emptied
  have kind : source.isText = false := by
    have root := fit.root
    cases source <;> first | rfl | cases root
  obtain ⟨-, -, result, made, shows⟩ := reached.shows ⟨contents, lists⟩ shown fit.clonable kind
    fun m member => by simpa using member
  refine ⟨emptied, g, result, ?_, sound, made, shows⟩
  have labels : notesOn config f₀ (f₀.met root source) emptied =
      noted (Compile.labels config source) emptied := by
    rw [notesOn, labels_of_met config shown]
  rw [List.nil_append, labels] at run
  have first : (⟨0, [], []⟩ : Notes) = notesOn config f₀ [] [] := rfl
  have gone : detachEach (noted (Compile.labels config source) emptied).emptied f =
      ⟨.ok (), g⟩ := detached
  rw [compileTree, walked, first, run]
  simp only [Outcome.andThen, gone]

/-- Compiling a source in place succeeds: no split is out of range and nothing that is looked up is
missing. The copy ends as the content of the template that compiling by recursion yields, and the
notes hold its table and its count. -/
theorem compile_eq (config : Config) {source : Node} (fit : source.Compilable) {f : Forest}
    (consistent : f.Consistent) {n : NodeId} (shown : f.Shows n source) :
    ∃ made root emptied g, Template.compile config source = .ok made ∧
      compile config n f = ⟨.ok (root, ⟨made.nodeCount, made.template.table, emptied⟩), g⟩ ∧
      g.Consistent ∧ g.Shows root made.template.content := by
  obtain ⟨made, done, outcome⟩ := Template.compile_outcome config fit
  obtain ⟨root, f₀, cloned, copied⟩ := shown.clone fit.clonable
    (Nat.le_of_lt (shown.height_lt_depthBound fit.clonable)) (.refl f) consistent
  have size : source.size ≤ f₀.size := by
    have := copied.size
    simp only [Node.sizes] at this
    omega
  have copy : f₀.Shows root source := by
    cases copied.shows with
    | cons first => exact first
  have once : (f₀.met root source).Nodup := by
    simpa [Forest.metAmong] using copied.metOnce
  obtain ⟨emptied, g, result, run, sound, compiled, shows⟩ :=
    compileTree_eq config fit copied.consistent copy size once
  obtain rfl : result = made.template.content := by
    rw [outcome.content] at compiled
    exact (List.singleton_inj.mp compiled).symm
  refine ⟨made, root, emptied, g, done, ?_, sound, shows⟩
  have whole : compile config n f = (f.clone f.depthBound n).andThen fun root f =>
      (compileTree config root f).andThen fun notes f => ⟨.ok (root, notes), f⟩ := by
    obtain ⟨content, -⟩ := shown
    have kind := fit.root
    rw [compile, content]
    cases source <;> first | rfl | cases kind
  rw [whole, cloned]
  simp only [Outcome.andThen, run, outcome.table, outcome.count, noted]

end

/-! The pieces of one text, as the loop over its placeholders leaves them. -/
section
variable {config : Config} {data : String}

theorem placed_of_append {size consumed : Nat} {seen rest : List Placeholder}
    (placed : Placeholder.Placed size consumed (seen ++ rest)) :
    Placeholder.Placed size consumed seen ∧
      Placeholder.Placed size (reached consumed seen) rest := by
  induction seen generalizing consumed with
  | nil => exact ⟨placed.consumed_le, placed⟩
  | cons p seen ih =>
    obtain ⟨before, inside, others⟩ := placed
    exact ⟨⟨before, inside, (ih others).1⟩, (ih others).2⟩

/-- The pieces stand for the text they were cut from. -/
theorem source_segments (config : Config) {text : List Char} {consumed : Nat}
    {placeholders : List Placeholder}
    (placed : Placeholder.Placed text.length consumed placeholders)
    (spelled : ∀ p ∈ placeholders, Placeholder.slice text p.start p.stop =
      p.spelling config.opening.toList config.closing.toList) :
    (segments text consumed placeholders).flatMap (pieceSource config) = text.drop consumed := by
  unfold segments
  induction placeholders generalizing consumed with
  | nil => simp [cuts, reached, pieceSource]
  | cons p rest ih =>
    obtain ⟨before, inside, others⟩ := placed
    obtain ⟨here, later⟩ := List.forall_mem_cons.mp spelled
    rw [cuts, reached, List.cons_append, List.cons_append, List.flatMap_cons, List.flatMap_cons,
      ih others later, pieceSource, pieceSource, ← here, Placeholder.slice_append_drop inside,
      Placeholder.slice_append_drop before]

theorem spelled_all (config : Config) (data : String) : ∀ p ∈ Placeholder.all config data,
    Placeholder.slice data.toList p.start p.stop =
      p.spelling config.opening.toList config.closing.toList := by
  have same : Placeholder.all config data = Placeholder.searched config.opening.toList
      config.closing.toList data.toList 0 := Placeholder.scan_eq_searched (Nat.zero_le _) rfl
  rw [same]
  exact (Placeholder.searched_divided _ _ _ _).spelled

/-- What holds while a text of a consistent forest is being cut and after it: behind any number of
its placeholders the current node has what the text has from `consumed` on, both offsets of the next
one lie inside, and in the end the pieces stand where the text stood and spell it. -/
structure CutsUp (config : Config) (f : Forest) (n : NodeId) (data : String) (notes : Notes) :
    Prop where
  during : ∀ seen rest, Placeholder.all config data = seen ++ rest →
    ∃ c g, cutEach seen ⟨n, 0, notes⟩ f = ⟨.ok c, g⟩ ∧
      g.content c.current = .text (String.ofList (data.toList.drop c.consumed)) ∧
      c.consumed = reached 0 seen ∧ c.consumed ≤ data.toList.length ∧
      ∀ p ∈ rest.head?, c.consumed ≤ p.start ∧ p.start ≤ p.stop ∧ p.stop ≤ data.toList.length
  after : ∀ q before behind, f.children q = before ++ n :: behind →
    ∃ (seats : List (NodeId × Piece)) (notes' : Notes) (g : Forest),
      compileText config n data notes f = ⟨.ok notes', g⟩ ∧
      g.children q = before ++ seats.map Prod.fst ++ behind ∧
      (∀ seat ∈ seats, g.content seat.1 = .text (pieceText seat.2)) ∧
      seats.map Prod.snd = allPieces config data ∧
      seats.flatMap (fun seat => pieceSource config seat.2) = data.toList

theorem cutsUp (config : Config) {f : Forest} (consistent : f.Consistent) {n : NodeId}
    (text : f.content n = .text data) (labels : List (List Descriptor)) (emptied : List NodeId) :
    CutsUp config f n data (noted labels emptied) := by
  have placed := Placeholder.all_placed config data
  constructor
  · intro seen rest whole
    rw [whole] at placed
    obtain ⟨front, back⟩ := placed_of_append placed
    have begun : f.content n = .text (String.ofList (data.toList.drop 0)) := by simp [text]
    obtain ⟨current, g, done, seats, spread⟩ := cutEach_eq front consistent begun labels emptied
    have last := content_of_piece spread (k := current)
      (by rw [seats]; exact List.mem_append_right _ (List.mem_singleton_self _))
    refine ⟨_, g, done, last, rfl, back.consumed_le, ?_⟩
    intro p first
    cases rest with
    | nil => cases first
    | cons q rest =>
      cases Option.mem_some.mp first
      exact ⟨back.1, back.2.1, back.2.2.consumed_le⟩
  · intro q before behind children
    obtain ⟨g, done, spread⟩ := compileText_eq config consistent text labels emptied
    refine ⟨Forest.lay n f.size (allPieces config data), _, g, done, ?_,
      fun seat member => content_of_piece spread member, Forest.map_snd_lay _ _ _, ?_⟩
    · have once := consistent.nodup q
      rw [children] at once
      rw [spread.children, children, Forest.inPlaceOf_middle once, lay_map, List.map_map]
      rfl
    · have pieces := source_segments config placed (spelled_all config data)
      rw [List.drop_zero, ← allPieces, ← Forest.map_snd_lay n f.size (allPieces config data),
        List.flatMap_map] at pieces
      exact pieces

/-- Compiling in place never fails inside. Whatever can be compiled is: every split is within its
text and everything that is looked up among children is found, or else an error would be the answer;
the answer is the template that compiling by recursion yields. And each text is cut up on the way as
`CutsUp` says, in whatever consistent forest it stands by then. -/
theorem compiles_without_error (config : Config) {source : Node} (fit : source.Compilable)
    {f : Forest} (consistent : f.Consistent) {n : NodeId} (shown : f.Shows n source) :
    (∃ made root emptied g, Template.compile config source = .ok made ∧
      compile config n f = ⟨.ok (root, ⟨made.nodeCount, made.template.table, emptied⟩), g⟩ ∧
      g.Consistent ∧ g.Shows root made.template.content) ∧
    ∀ (g : Forest) (m : NodeId) (data : String), g.Consistent → g.content m = .text data →
      ∀ labels emptied, CutsUp config g m data (noted labels emptied) :=
  ⟨compile_eq config fit consistent shown, fun _ _ _ sound text labels emptied =>
    cutsUp config sound text labels emptied⟩

end

/-- A tree whose text begins and ends with placeholders, two of which adjoin. -/
def wovenSource : Node :=
  .fragment [.text "{a} and {b}{c}", .element "p" [(some "title", some "{t}")] [] [.comment "{d}"]]

/-- A forest that has it at its first node. -/
def wovenForest : Forest := ⟨#[⟨.fragment, none, [1, 2]⟩, ⟨.text "{a} and {b}{c}", some 0, []⟩,
  ⟨.element "p" [(some "title", some "{t}")] [], some 0, [3]⟩, ⟨.comment "{d}", some 2, []⟩]⟩

theorem wovenForest_shows : wovenForest.Shows 0 wovenSource :=
  .intro rfl (.cons (.intro rfl .nil)
    (.cons (.intro rfl (.cons (.intro rfl .nil) .nil)) .nil))

theorem wovenSource_compiles : wovenSource.Compilable ∧ wovenForest.Consistent ∧
    wovenForest.Shows 0 wovenSource ∧
    ∃ made root emptied g, Template.compile Config.standard wovenSource = .ok made ∧
      compile Config.standard 0 wovenForest =
        ⟨.ok (root, ⟨made.nodeCount, made.template.table, emptied⟩), g⟩ ∧
      g.Consistent ∧ g.Shows root made.template.content := by
  have fit : wovenSource.Compilable := ⟨by decide, by decide, by unfold Node.AllAttributes; decide⟩
  have consistent : wovenForest.Consistent := by decide
  exact ⟨fit, consistent, wovenForest_shows,
    (compiles_without_error Config.standard fit consistent wovenForest_shows).1⟩

end InPlace
end LiveTemplate
