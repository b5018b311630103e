import LiveTemplate.Proofs.Forest.Requests

/-! Runs of requests to a forest whose nodes stood alone at first. Whether requests are granted or
refused, links and lists stay in step, and the nodes that a request does not move keep their order.
The one exception is an insertion at a position that no list could have: it leaves the node with a
parent that does not list it. -/
namespace LiveTemplate.Forest

namespace Request

/-- The nodes that are to get another place. -/
def moved (f : Forest) : Request → List NodeId
  | construct _ children => children
  | append _ nodes => nodes
  | insert _ _ n | insertAfter _ _ n | remove n | removeChild _ n => [n]
  | index .. => []
  | split .. => [f.size]

/-- No position is asked for that no list could have. -/
def InRange : Request → Prop
  | insert _ position _ => IsPosition position
  | _ => True

instance : (r : Request) → Decidable r.InRange
  | insert _ position _ => inferInstanceAs (Decidable (IsPosition position))
  | construct .. | append .. | insertAfter .. | remove _ | removeChild .. | index .. | split .. =>
    inferInstanceAs (Decidable True)

end Request

/-- Outside these nodes every list is as it was. -/
def KeepsOrder (f : Forest) (moved : List NodeId) (g : Forest) : Prop :=
  ∀ q, (g.children q).filter (· ∉ moved) = (f.children q).filter (· ∉ moved)

section
variable {f g h : Forest} {n p : Nat} {listed some others : List NodeId}

theorem filter_of_subset (within : some ⊆ others) (children : List NodeId) :
    (children.filter (· ∉ some)).filter (· ∉ others) = children.filter (· ∉ others) := by
  rw [List.filter_filter]
  refine List.filter_congr fun m _ => ?_
  by_cases member : m ∈ others
  · simp [member]
  · have outside : m ∉ some := fun inner => member (within inner)
    simp [member, outside]

theorem KeepsOrder.mono (keeps : KeepsOrder f some g) (within : some ⊆ others) :
    KeepsOrder f others g := by
  intro q
  rw [← filter_of_subset within (g.children q), keeps q, filter_of_subset within]

theorem KeepsOrder.trans (first : KeepsOrder f some g) (second : KeepsOrder g others h) :
    KeepsOrder f (some ++ others) h := fun q =>
  (second.mono (List.subset_append_right some others) q).trans
    (first.mono (List.subset_append_left some others) q)

theorem filter_ne (children : List NodeId) :
    children.filter (· ≠ n) = children.filter (· ∉ [n]) :=
  List.filter_congr fun m _ => by simp

theorem Removed.keepsOrder (removed : Removed f n g) : KeepsOrder f [n] g := by
  intro q
  rw [removed.children, filter_ne, filter_of_subset (List.Subset.refl _)]

theorem Placed.filter {before after : List NodeId} (placed : Placed n before after) :
    after.filter (· ∉ [n]) = before.filter (· ∉ [n]) := by
  obtain ⟨front, back, rfl, rfl⟩ := placed
  simp

theorem Moved.keepsOrder (moved : Moved f p n listed g) : KeepsOrder f [n] g := by
  intro q
  rw [moved.children]
  split
  · next same =>
    rw [moved.placed.filter, filter_ne, filter_of_subset (List.Subset.refl _), same]
  · rw [filter_ne, filter_of_subset (List.Subset.refl _)]

theorem Adopting.keepsOrder {content : Content Value}
    (adopting : Adopting f content listed listed g) : KeepsOrder f listed g := by
  intro q
  rw [adopting.children]
  split
  · next new =>
    have none : f.children q = [] := by
      rw [new, Forest.children, cell_of_size_le (Nat.le_refl _)]
      rfl
    rw [none]
    simp
  · exact filter_of_subset (List.Subset.refl _) _

/-- What stands behind a text as its other half is new. -/
theorem Spread.keepsOrder {first second : String} (here : n < f.size)
    (spread : Spread f n [first, second] g) : KeepsOrder f [f.size] g := by
  intro q
  rw [spread.children]
  show (inPlaceOf n [n, f.size] (f.children q)).filter _ = _
  have apart : n ≠ f.size := Nat.ne_of_lt here
  induction f.children q with
  | nil => rfl
  | cons c rest ih =>
    unfold inPlaceOf at ih ⊢
    rw [List.flatMap_cons, List.filter_append, ih, List.filter_cons]
    by_cases same : c = n <;> by_cases new : c = f.size <;> simp [same, new, apart, apart.symm]

theorem Appended.consistent {nodes : List NodeId} (appended : Appended p f nodes g) :
    g.Consistent := by
  induction appended with
  | nil consistent => exact consistent
  | cons _ _ ih => exact ih

theorem Appended.keepsOrder {nodes : List NodeId} (appended : Appended p f nodes g) :
    KeepsOrder f nodes g := by
  induction appended with
  | nil => exact fun _ => rfl
  | cons first _ ih => exact first.keepsOrder.trans ih

end

section
variable {f : Forest} {r : Request}

theorem Grants.keeps {g : Forest} (consistent : f.Consistent) (grants : Grants f r g) :
    KeepsOrder f (r.moved f) g ∧ g.Consistent := by
  cases grants with
  | construct sound adopting => exact ⟨adopting.keepsOrder, sound⟩
  | append appended => exact ⟨appended.keepsOrder, appended.consistent⟩
  | insert moved | insertAfter moved => exact ⟨moved.keepsOrder, moved.consistent⟩
  | remove removed | removeChild removed => exact ⟨removed.keepsOrder, removed.consistent⟩
  | index => exact ⟨fun _ => rfl, consistent⟩
  | split here spread => exact ⟨spread.keepsOrder here, spread.consistent⟩

theorem Leaves.keeps {o : Outcome Unit} (consistent : f.Consistent) (known : r.Known f)
    (misfits : r.Misfits f) (leaves : Leaves f r o) :
    KeepsOrder f (r.moved f) o.forest ∧ (o.forest.Consistent ↔ r.InRange) := by
  cases leaves with
  | index | removeChild | split => exact ⟨fun _ => rfl, iff_of_true consistent trivial⟩
  | insertAfter removed => exact ⟨removed.keepsOrder, iff_of_true removed.consistent trivial⟩
  | insert removed =>
    refine ⟨fun q => ?_, iff_of_false (removed.lost known.2) misfits⟩
    rw [children_setParent]
    exact removed.keepsOrder q

namespace Request

theorem inRange_of_fits (fits : ¬ r.Misfits f) : r.InRange := by
  cases r with
  | insert p position n => exact not_not.mp fits
  | _ => trivial

/-- What one request leaves of the links and lists. -/
theorem apply_keeps (consistent : f.Consistent) (known : r.Known f) :
    KeepsOrder f (r.moved f) (r.apply f).forest ∧
      ((r.apply f).forest.Consistent ↔ r.InRange) := by
  rcases apply_cases consistent known with ⟨fits, -, grants⟩ | ⟨misfits, leaves⟩
  · obtain ⟨keeps, sound⟩ := grants.keeps consistent
    exact ⟨keeps, iff_of_true sound (inRange_of_fits fits)⟩
  · exact leaves.keeps consistent known misfits

/-- Requests are made one after the other, also after a refusal. -/
def applyAll : List Request → Forest → Forest
  | [], f => f
  | r :: rest, f => applyAll rest (r.apply f).forest

/-- Each request speaks of nodes that exist by then. -/
def KnownAll : List Request → Forest → Prop
  | [], _ => True
  | r :: rest, f => r.Known f ∧ KnownAll rest (r.apply f).forest

instance decidableKnownAll : (requests : List Request) → (f : Forest) →
    Decidable (KnownAll requests f)
  | [], _ => inferInstanceAs (Decidable True)
  | r :: rest, f =>
    have := decidableKnownAll rest (r.apply f).forest
    inferInstanceAs (Decidable (_ ∧ _))

theorem applyAll_consistent {requests : List Request} (consistent : f.Consistent)
    (known : KnownAll requests f) (inRange : ∀ r ∈ requests, r.InRange) :
    (applyAll requests f).Consistent := by
  induction requests generalizing f with
  | nil => exact consistent
  | cons r rest ih =>
    obtain ⟨first, others⟩ := List.forall_mem_cons.mp inRange
    exact ih ((apply_keeps consistent known.1).2.mpr first) known.2 others

end Request

/-- All nodes stand alone. -/
def Scattered (f : Forest) : Prop := ∀ n < f.size, f.parent n = none ∧ f.children n = []

instance (f : Forest) : Decidable f.Scattered := inferInstanceAs (Decidable (∀ _ < _, _ ∧ _))

theorem Scattered.consistent (scattered : f.Scattered) : f.Consistent := by
  refine consistent_iff.mpr ⟨fun n made p link => ?_, fun p made => ?_⟩
  · rw [(scattered n made).1] at link
    cases link
  · rw [(scattered p made).2]
    exact ⟨.nil, List.forall_mem_nil _⟩

/-- Whatever is asked of nodes that stood alone at first, granted or refused, afterwards a node has
a parent exactly if the parent lists it, which it does once, and no other node does. From there on
each request that fits is granted and puts the nodes where it was asked to, each one keeps the order
of the nodes that it does not move, and links and lists stay in step as well, unless the request is
an insertion at a position that no list could have. -/
theorem requests_keep_links (scattered : f.Scattered) {requests : List Request}
    (known : Request.KnownAll requests f) (inRange : ∀ r ∈ requests, r.InRange) {g : Forest}
    (reached : Request.applyAll requests f = g) :
    (∀ n p, g.parent n = some p ↔ n ∈ g.children p) ∧
    (∀ n p, n ∈ g.children p →
      (g.children p).count n = 1 ∧ ∀ q, n ∈ g.children q → q = p) ∧
    ∀ r : Request, r.Known g →
      (¬ r.Misfits g → (r.apply g).result = .ok () ∧ Grants g r (r.apply g).forest) ∧
      KeepsOrder g (r.moved g) (r.apply g).forest ∧
      ((r.apply g).forest.Consistent ↔ r.InRange) := by
  have consistent : g.Consistent :=
    reached ▸ Request.applyAll_consistent scattered.consistent known inRange
  refine ⟨consistent.linked, fun n p child => ⟨?_, fun q => consistent.parent_unique child⟩,
    fun r exists_all => ⟨fun fits => ?_, Request.apply_keeps consistent exists_all⟩⟩
  · exact List.count_eq_one_of_mem (consistent.nodup p) child
  · rcases Request.apply_cases consistent exists_all with ⟨-, granted⟩ | ⟨misfits, -⟩
    · exact granted
    · exact absurd misfits fits

end

/-- A fragment, an element and two texts. -/
def seedlings : Forest := ⟨#[⟨.fragment, none, []⟩, ⟨.element "p" [] [], none, []⟩,
  ⟨.text "ab", none, []⟩, ⟨.text "c", none, []⟩]⟩

/-- Nodes change their places, a text is split, a new fragment takes children away, and three of the
requests are refused. -/
def plantings : List Request := [.append 0 [1, 2, 3, 2], .insert 0 (-1) 1, .split 2 1,
  .insertAfter 0 1 1, .construct .fragment [4, 3], .removeChild 0 3, .insertAfter 5 4 1,
  .split 2 9, .append 1 [0]]

theorem plantings_keep_links : seedlings.Scattered ∧ Request.KnownAll plantings seedlings ∧
    (∀ r ∈ plantings, r.InRange) ∧
    ∃ g, Request.applyAll plantings seedlings = g ∧
      g.children 5 = [4, 1, 3] ∧ g.children 1 = [0] ∧ g.children 0 = [2] ∧
      (∀ n p, g.parent n = some p ↔ n ∈ g.children p) ∧
      (Request.insert 0 7 3).Known g ∧ ¬ (Request.insert 0 7 3).Misfits g ∧
      ((Request.insert 0 7 3).apply g).result = .ok () ∧
      ((Request.insert 0 7 3).apply g).forest.Consistent ∧
      KeepsOrder g [3] ((Request.insert 0 7 3).apply g).forest := by
  have scattered : seedlings.Scattered := by decide
  have known : Request.KnownAll plantings seedlings := by decide
  have inRange : ∀ r ∈ plantings, r.InRange := by decide
  obtain ⟨linked, -, next⟩ := requests_keep_links scattered known inRange rfl
  have made : (Request.insert 0 7 3).Known (Request.applyAll plantings seedlings) := by decide
  have fits : ¬ (Request.insert 0 7 3).Misfits (Request.applyAll plantings seedlings) :=
    not_not_intro (by decide)
  obtain ⟨granted, keeps, sound⟩ := next _ made
  exact ⟨scattered, known, inRange, _, rfl, by decide, by decide, by decide, linked, made, fits,
    (granted fits).1, sound.mpr (by decide), keeps⟩

/-- At the first position that no list could have, a node gets a parent that does not list it. -/
theorem listed_nowhere : seedlings.Scattered ∧
    Request.KnownAll [.insert 0 positionLimit 3] seedlings ∧
    ((Request.insert 0 positionLimit 3).apply seedlings).result = .error .positionTooLarge ∧
    ∃ g, Request.applyAll [.insert 0 positionLimit 3] seedlings = g ∧
      g.parent 3 = some 0 ∧ 3 ∉ g.children 0 :=
  ⟨by decide, by decide, rfl, _, rfl, by decide, by decide⟩

end LiveTemplate.Forest
