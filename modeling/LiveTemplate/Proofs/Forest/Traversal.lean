import LiveTemplate.Forest.Outline
import LiveTemplate.Proofs.Forest.Copied
import Mathlib.Logic.Relation

/-! Walks over finite trees, as values and in place. The loop over the stack of pending nodes comes
to an end and meets what recursion meets, each node once; where no bare parent hides anything it
meets the texts and elements among all nodes. A copy is walked like its original. -/
namespace LiveTemplate

namespace Content

/-- Only texts and elements are met. -/
def isWalked {π : Type} : Content π → Bool
  | text _ | element .. => true
  | _ => false

end Content

namespace Node

theorem isWalked_content (t : Node) : t.content.isWalked = t.isWalked := by cases t <;> rfl

end Node

namespace Outcome

/-- An edit after another has succeeded only if both have. -/
theorem of_andThen_eq_ok {α β : Type} {o : Outcome α}
    {next : α → Forest → Outcome β} {b : β} {g : Forest} (done : o.andThen next = ⟨.ok b, g⟩) :
    ∃ a h, o = ⟨.ok a, h⟩ ∧ next a h = ⟨.ok b, g⟩ := by
  obtain ⟨result, h⟩ := o
  cases result with
  | ok a => exact ⟨a, h, rfl, done⟩
  | error e => cases done

end Outcome

namespace Forest

mutual

/-- The nodes that show the tree and all below it, parents first. -/
def every (f : Forest) (n : NodeId) : Node → List NodeId
  | .text _ | .comment _ | .bare => [n]
  | .element _ _ _ cs | .fragment cs | .bareParent cs => n :: everyAmong f (f.children n) cs

def everyAmong (f : Forest) : List NodeId → List Node → List NodeId
  | n :: ns, t :: ts => every f n t ++ everyAmong f ns ts
  | _, _ => []

end

/-- The walk from a node. The stack never gives more nodes than the forest has. -/
def walk (f : Forest) (n : NodeId) : List NodeId := f.walkStack f.size [n]

section
variable {f : Forest} {n : NodeId} {t : Node} {ns : List NodeId} {ts : List Node}

theorem every_eq (f : Forest) (n : NodeId) (t : Node) :
    f.every n t = n :: f.everyAmong (f.children n) t.children := by
  cases t <;> simp [every, everyAmong, Node.children]

mutual

/-- Pending nodes are walked one tree after the other, whatever lies behind them on the stack. -/
theorem Shows.walked {f : Forest} {n : NodeId} {t : Node} : Shows f n t →
    ∃ turns ≤ t.size, ∀ fuel stack,
      f.walkStack (turns + fuel) (n :: stack) = f.met n t ++ f.walkStack fuel stack
  | .intro content below => by
    obtain ⟨turns, bound, goes⟩ := ShowsAll.walked below
    rw [t.size_eq]
    cases t with
    | text data =>
      refine ⟨1, by omega, fun fuel stack => ?_⟩
      rw [Nat.add_comm, walkStack, content]
      rfl
    | comment data | bare | bareParent cs =>
      refine ⟨1, by omega, fun fuel stack => ?_⟩
      rw [Nat.add_comm, walkStack, content]
      rfl
    | element tag attributes properties cs =>
      refine ⟨turns + 1, by omega, fun fuel stack => ?_⟩
      rw [Nat.add_right_comm, walkStack, content]
      exact congrArg (n :: ·) (goes fuel stack)
    | fragment cs =>
      refine ⟨turns + 1, by omega, fun fuel stack => ?_⟩
      rw [Nat.add_right_comm, walkStack, content]
      exact goes fuel stack

theorem ShowsAll.walked {f : Forest} {ns : List NodeId} {ts : List Node} : ShowsAll f ns ts →
    ∃ turns ≤ Node.sizes ts, ∀ fuel stack,
      f.walkStack (turns + fuel) (ns ++ stack) = f.metAmong ns ts ++ f.walkStack fuel stack
  | .nil => ⟨0, Nat.zero_le _, fun fuel stack => by rw [Nat.zero_add]; rfl⟩
  | .cons first rest => by
    obtain ⟨turns, bound, goes⟩ := Shows.walked first
    obtain ⟨others, within, goes'⟩ := ShowsAll.walked rest
    refine ⟨turns + others, Nat.add_le_add bound within, fun fuel stack => ?_⟩
    rw [Nat.add_assoc, List.cons_append, goes, goes', metAmong, List.append_assoc]

end

mutual

/-- The nodes that are met show what recursion meets. -/
theorem Shows.contents {f : Forest} {n : NodeId} {t : Node} : Shows f n t →
    (f.met n t).map f.content = t.preorder.map Node.content
  | .intro content below => by
    have inner := ShowsAll.contents below
    cases t with
    | element tag attributes properties cs =>
      rw [met, Node.preorder, List.map_cons, List.map_cons, content]
      exact congrArg _ inner
    | fragment cs => exact inner
    | text data => exact congrArg (fun c => [c]) content
    | comment data | bare | bareParent cs => rfl

theorem ShowsAll.contents {f : Forest} {ns : List NodeId} {ts : List Node} : ShowsAll f ns ts →
    (f.metAmong ns ts).map f.content = (Node.preorders ts).map Node.content
  | .nil => rfl
  | .cons first rest => by
    rw [metAmong, Node.preorders, List.map_append, List.map_append, Shows.contents first,
      ShowsAll.contents rest]

end

mutual

/-- Where nothing is hidden, the texts and elements among all nodes are met. -/
theorem Shows.filtered {f : Forest} {n : NodeId} {t : Node} : Shows f n t → t.isOpen = true →
    (f.every n t).filter (fun m => (f.content m).isWalked) = f.met n t
  | .intro content below, opened => by
    have inner := ShowsAll.filtered below
    have kind : (f.content n).isWalked = t.isWalked := by rw [content, t.isWalked_content]
    rw [every_eq, List.filter_cons, kind]
    cases t with
    | element tag attributes properties cs => exact congrArg (n :: ·) (inner opened)
    | fragment cs => exact inner opened
    | text data | comment data | bare =>
      rw [below.eq_nil]
      rfl
    | bareParent cs => cases opened

theorem ShowsAll.filtered {f : Forest} {ns : List NodeId} {ts : List Node} : ShowsAll f ns ts →
    Node.areOpen ts = true →
      (f.everyAmong ns ts).filter (fun m => (f.content m).isWalked) = f.metAmong ns ts
  | .nil, _ => rfl
  | .cons first rest, opened => by
    obtain ⟨here, later⟩ := Node.isOpen_and_areOpen opened
    rw [everyAmong, metAmong, List.filter_append, Shows.filtered first here,
      ShowsAll.filtered rest later]

end

mutual

theorem Shows.met_sublist {f : Forest} {n : NodeId} {t : Node} : Shows f n t →
    (f.met n t).Sublist (f.every n t)
  | .intro _ below => by
    have inner := ShowsAll.met_sublist below
    rw [every_eq]
    cases t with
    | element tag attributes properties cs => exact inner.cons_cons n
    | fragment cs => exact inner.cons n
    | text data => exact (List.nil_sublist _).cons_cons n
    | comment data | bare | bareParent cs => exact List.nil_sublist _

theorem ShowsAll.met_sublist {f : Forest} {ns : List NodeId} {ts : List Node} : ShowsAll f ns ts →
    (f.metAmong ns ts).Sublist (f.everyAmong ns ts)
  | .nil => List.Sublist.refl _
  | .cons first rest => (Shows.met_sublist first).append (ShowsAll.met_sublist rest)

end

mutual

theorem Shows.length_every {f : Forest} {n : NodeId} {t : Node} : Shows f n t →
    (f.every n t).length = t.size
  | .intro _ below => by
    rw [every_eq, List.length_cons, ShowsAll.length_everyAmong below, t.size_eq, Nat.add_comm]

theorem ShowsAll.length_everyAmong {f : Forest} {ns : List NodeId} {ts : List Node} :
    ShowsAll f ns ts → (f.everyAmong ns ts).length = Node.sizes ts
  | .nil => rfl
  | .cons first rest => by
    rw [everyAmong, List.length_append, Shows.length_every first,
      ShowsAll.length_everyAmong rest, Node.sizes]

end

/-- `a` is `b` or stands below it. -/
def Under (f : Forest) : NodeId → NodeId → Prop :=
  Relation.ReflTransGen fun a b => f.parent a = some b

/-- A node has one parent only, so of two nodes above it one is above the other. -/
theorem Under.comparable {a b c : NodeId} (first : f.Under a b) (second : f.Under a c) :
    f.Under b c ∨ f.Under c b :=
  first.total_of_right_unique (fun _ _ _ one other => Option.some.inj (one.symm.trans other)) second

/-- Each node of a list shows a tree no larger than all trees together. -/
theorem ShowsAll.of_mem {c : NodeId} (shown : ShowsAll f ns ts) (member : c ∈ ns) :
    ∃ u, Shows f c u ∧ u.size ≤ Node.sizes ts := by
  induction ns generalizing ts with
  | nil => cases member
  | cons n ns ih =>
    cases shown with
    | @cons n t ns ts first rest =>
      rcases List.mem_cons.mp member with rfl | later
      · exact ⟨t, first, Nat.le_add_right _ _⟩
      · obtain ⟨u, shows, le⟩ := ih rest later
        exact ⟨u, shows, Nat.le_trans le (Nat.le_add_left _ _)⟩

/-- What stands below a node shows part of what the node shows. -/
theorem Under.shows {a : NodeId} (consistent : f.Consistent) (under : f.Under a n)
    (shown : Shows f n t) : ∃ u, Shows f a u ∧ u.size ≤ t.size := by
  induction under using Relation.ReflTransGen.head_induction_on with
  | refl => exact ⟨t, shown, Nat.le_refl _⟩
  | head link _ ih =>
    obtain ⟨u, ⟨-, below⟩, le⟩ := ih
    obtain ⟨v, shows, smaller⟩ := below.of_mem ((consistent.linked _ _).mp link)
    exact ⟨v, shows, by have := u.size_eq; omega⟩

mutual

theorem Shows.under {f : Forest} {n : NodeId} {t : Node} (consistent : f.Consistent) :
    Shows f n t → ∀ m ∈ f.every n t, f.Under m n
  | .intro _ below, m, member => by
    rw [every_eq] at member
    rcases List.mem_cons.mp member with rfl | inner
    · exact .refl
    · obtain ⟨c, child, under⟩ := ShowsAll.under consistent below m inner
      exact under.tail ((consistent.linked c n).mpr child)

theorem ShowsAll.under {f : Forest} {ns : List NodeId} {ts : List Node}
    (consistent : f.Consistent) : ShowsAll f ns ts →
      ∀ m ∈ f.everyAmong ns ts, ∃ c ∈ ns, f.Under m c
  | .nil, m, member => nomatch member
  | .cons first rest, m, member => by
    rcases List.mem_append.mp member with here | later
    · exact ⟨_, List.mem_cons_self, Shows.under consistent first m here⟩
    · obtain ⟨c, among, under⟩ := ShowsAll.under consistent rest m later
      exact ⟨c, List.mem_cons_of_mem _ among, under⟩

end

/-- Nothing stands below two children of a node that shows a finite tree. -/
theorem Shows.apart {a b c : NodeId} (consistent : f.Consistent) (shown : Shows f n t)
    (first : a ∈ f.children n) (second : b ∈ f.children n) (underFirst : f.Under c a)
    (underSecond : f.Under c b) : a = b := by
  -- If one child stood below the other, the node would stand below its own child.
  have none_below {a b : NodeId} (first : a ∈ f.children n) (second : b ∈ f.children n)
      (under : f.Under a b) : a = b := by
    rcases under.cases_head with same | ⟨p, link, above⟩
    · exact same
    · obtain ⟨content, below⟩ := shown
      obtain rfl : p = n :=
        Option.some.inj (link.symm.trans ((consistent.linked a n).mpr first))
      obtain ⟨u, shows, le⟩ := below.of_mem second
      obtain ⟨v, again, le'⟩ := Under.shows consistent above shows
      rw [again.unique (.intro content below), t.size_eq] at le'
      omega
  rcases underFirst.comparable underSecond with below | above
  · exact none_below first second below
  · exact (none_below second first above).symm

mutual

/-- No node shows two parts of a tree. -/
theorem Shows.once {f : Forest} {n : NodeId} {t : Node} (consistent : f.Consistent) :
    Shows f n t → (f.every n t).Nodup
  | .intro content below => by
    have own : Shows f n t := .intro content below
    rw [every_eq, List.nodup_cons]
    refine ⟨fun member => ?_, ShowsAll.once consistent below (consistent.nodup n)
      fun a first b second c => own.apart consistent first second⟩
    obtain ⟨c, child, under⟩ := ShowsAll.under consistent below n member
    obtain ⟨u, shows, le⟩ := below.of_mem child
    obtain ⟨v, again, le'⟩ := under.shows consistent shows
    rw [again.unique own, t.size_eq] at le'
    omega

theorem ShowsAll.once {f : Forest} {ns : List NodeId} {ts : List Node} (consistent : f.Consistent) :
    ShowsAll f ns ts → ns.Nodup →
      (∀ a ∈ ns, ∀ b ∈ ns, ∀ c, f.Under c a → f.Under c b → a = b) →
        (f.everyAmong ns ts).Nodup
  | .nil, _, _ => .nil
  | @ShowsAll.cons _ n t ns ts first rest, distinct, apart => by
    obtain ⟨missing, distinct⟩ := List.nodup_cons.mp distinct
    refine List.nodup_append.mpr ⟨Shows.once consistent first, ShowsAll.once consistent rest
      distinct fun a here b there => apart a (List.mem_cons_of_mem _ here) b
        (List.mem_cons_of_mem _ there), ?_⟩
    rintro m here _ later rfl
    obtain ⟨c, among, under⟩ := ShowsAll.under consistent rest m later
    have same := apart n List.mem_cons_self c (List.mem_cons_of_mem _ among) m
      (Shows.under consistent first m here) under
    exact missing (same ▸ among)

end

/-- A tree has no more nodes than the forest. -/
theorem Shows.size_le (consistent : f.Consistent) (here : n < f.size) (shown : Shows f n t) :
    t.size ≤ f.size := by
  have within : f.every n t ⊆ List.range f.size := by
    intro m member
    rcases (shown.under consistent m member).cases_head with rfl | ⟨p, link, -⟩
    · exact List.mem_range.mpr here
    · exact List.mem_range.mpr (lt_size_of_parent link)
  have count := (List.subperm_of_subset (shown.once consistent) within).length_le
  rwa [shown.length_every, List.length_range] at count

end

/-- How a node is called: by its name or else by its type. -/
def label (f : Forest) (nameOf : NodeId → Option String) (n : NodeId) : String :=
  (nameOf n).getD (f.content n).type.name

mutual

/-- An outline lists what is met and what there is, if its depth is not cut off. -/
theorem Shows.labels {f : Forest} {n : NodeId} {t : Node} (nameOf : NodeId → Option String) :
    Shows f n t → ∀ {fuel : Nat}, t.height ≤ fuel →
      (f.outline nameOf fuel n).walkLabels = (f.met n t).map (f.label nameOf) ∧
      (f.outline nameOf fuel n).allLabels = (f.every n t).map (f.label nameOf)
  | .intro content below, fuel, enough => by
    rw [t.height_eq] at enough
    obtain ⟨fuel, rfl⟩ : ∃ less, fuel = less + 1 := ⟨fuel - 1, by omega⟩
    obtain ⟨met, listed⟩ := ShowsAll.labels nameOf below (Nat.le_of_succ_le_succ enough)
    refine ⟨?_, by rw [every_eq, outline, Outline.allLabels, listed]; rfl⟩
    have called : f.label nameOf n = (nameOf n).getD t.content.type.name := by rw [label, content]
    rw [outline, content]
    cases t with
    | element tag attributes properties cs =>
      rw [Node.content, Outline.walkLabels, Forest.met, List.map_cons, called]
      exact congrArg _ met
    | fragment cs =>
      rw [Node.content, Outline.walkLabels]
      exact met
    | text data =>
      rw [Node.content, Outline.walkLabels, Forest.met, List.map_singleton, called]
      rfl
    | comment data | bare | bareParent cs =>
      rw [Node.content, Outline.walkLabels]
      rfl

theorem ShowsAll.labels {f : Forest} {ns : List NodeId} {ts : List Node}
    (nameOf : NodeId → Option String) : ShowsAll f ns ts → ∀ {fuel : Nat},
      Node.heights ts ≤ fuel →
        Outline.walkLabelsOf (f.outlines nameOf fuel ns) =
          (f.metAmong ns ts).map (f.label nameOf) ∧
        Outline.allLabelsOf (f.outlines nameOf fuel ns) =
          (f.everyAmong ns ts).map (f.label nameOf)
  | .nil, _, _ => by
    simp [outlines, Outline.walkLabelsOf, Outline.allLabelsOf, metAmong, everyAmong]
  | .cons first rest, fuel, enough => by
    obtain ⟨high, higher⟩ := Nat.max_le.mp enough
    obtain ⟨met, listed⟩ := Shows.labels nameOf first high
    obtain ⟨others, listed'⟩ := ShowsAll.labels nameOf rest higher
    rw [outlines, Outline.walkLabelsOf, Outline.allLabelsOf, metAmong, everyAmong, met, listed,
      others, listed', List.map_append, List.map_append]
    exact ⟨rfl, rfl⟩

end

section
variable {f : Forest} {n : NodeId} {t : Node}

mutual

/-- Only a tree that may be copied is copied. Other nodes may have been made since it was looked at.
-/
theorem Shows.clonable {f₀ : Forest} {n : NodeId} {t : Node} (sound : f₀.Consistent) :
    Shows f₀ n t → n < f₀.size → ∀ {fuel : Nat} {f g : Forest} {m : NodeId}, Kept f₀ f →
      f.Consistent → f.clone fuel n = ⟨.ok m, g⟩ → t.isClonable = true ∧ t.height ≤ fuel
  | .intro content below, here, fuel, f, g, m, kept, consistent, done => by
    cases fuel with
    | zero =>
      rw [Forest.clone] at done
      cases done
    | succ fuel =>
      have same : f.content n = t.content := (kept.content n here).trans content
      rw [Forest.clone, same, kept.children n here] at done
      split at done
      · next known =>
        obtain ⟨ms, h, copied, -⟩ := Outcome.of_andThen_eq_ok done
        obtain ⟨inner, low⟩ := ShowsAll.clonable sound below (fun c child => sound.lt_size child)
          kept consistent copied
        exact ⟨Node.clonable_iff.mpr ⟨known, inner⟩, by rw [t.height_eq]; omega⟩
      · cases done

theorem ShowsAll.clonable {f₀ : Forest} {ns : List NodeId} {ts : List Node}
    (sound : f₀.Consistent) : ShowsAll f₀ ns ts → (∀ n ∈ ns, n < f₀.size) →
      ∀ {fuel : Nat} {f g : Forest} {ms : List NodeId}, Kept f₀ f → f.Consistent →
        f.cloneAll fuel ns = ⟨.ok ms, g⟩ → Node.areClonable ts = true ∧ Node.heights ts ≤ fuel
  | .nil, _, _, _, _, _, _, _, _ => ⟨rfl, Nat.zero_le _⟩
  | .cons first rest, here, fuel, f, g, ms, kept, consistent, done => by
    obtain ⟨inside, others⟩ := List.forall_mem_cons.mp here
    rw [Forest.cloneAll] at done
    obtain ⟨m, h, copied, done⟩ := Outcome.of_andThen_eq_ok done
    obtain ⟨ms, h', copies, -⟩ := Outcome.of_andThen_eq_ok done
    obtain ⟨known, low⟩ := Shows.clonable sound first inside kept consistent copied
    -- What was copied so far disturbs no old node, so the rest is still shown.
    obtain ⟨_, _, again, made⟩ := Shows.clone first known low kept consistent
    cases again.symm.trans copied
    obtain ⟨later, lower⟩ := ShowsAll.clonable sound rest others (kept.trans made.kept)
      made.consistent copies
    exact ⟨by simp [Node.areClonable, known, later], Nat.max_le.mpr ⟨low, lower⟩⟩

end

/-- A node that shows a finite tree can be copied exactly if the tree may be. -/
theorem Shows.clone_succeeds_iff (consistent : f.Consistent) (here : n < f.size)
    (shown : Shows f n t) :
    (∃ m g, f.clone f.depthBound n = ⟨.ok m, g⟩) ↔ t.isClonable = true := by
  constructor
  · rintro ⟨m, g, done⟩
    exact (shown.clonable consistent here (.refl f) consistent done).1
  · intro clonable
    obtain ⟨m, g, done, -⟩ := shown.clone clonable
      (Nat.le_of_lt (shown.height_lt_depthBound clonable)) (.refl f) consistent
    exact ⟨m, g, done⟩

/-- What the walk is from a node that shows a finite tree. -/
structure WalksThrough (f : Forest) (n : NodeId) (t : Node) : Prop where
  /-- The loop is done with the tree after so many turns and goes on with what lies behind it. -/
  ends : ∃ turns ≤ t.size, ∀ fuel stack,
    f.walkStack (turns + fuel) (n :: stack) = f.met n t ++ f.walkStack fuel stack
  preorder : f.walk n = f.met n t
  contents : (f.walk n).map f.content = t.preorder.map Node.content
  once : (f.walk n).Nodup
  filtered : t.isOpen = true →
    f.walk n = (f.every n t).filter fun m => (f.content m).isWalked
  /-- Outlines tell the walk and all nodes by name. -/
  labels : ∀ nameOf,
    (f.outline nameOf f.depthBound n).walkLabels = (f.walk n).map (f.label nameOf) ∧
    (f.outline nameOf f.depthBound n).allLabels = (f.every n t).map (f.label nameOf)

theorem Shows.walksThrough (consistent : f.Consistent) (here : n < f.size) (shown : Shows f n t) :
    WalksThrough f n t := by
  have enough := shown.size_le consistent here
  have walk : f.walk n = f.met n t := by
    rw [Forest.walk, walkStack_eq_metAmong (.cons shown .nil) (by simpa [Node.sizes] using enough)]
    simp [metAmong]
  refine ⟨shown.walked, walk, ?_, ?_, fun opened => ?_, fun nameOf => ?_⟩
  · rw [walk, shown.contents]
  · rw [walk]
    exact shown.met_sublist.nodup (shown.once consistent)
  · rw [walk, shown.filtered opened]
  · rw [walk]
    apply shown.labels nameOf
    have low := t.height_le_size
    unfold depthBound
    unfold size at enough
    omega

/-- The walk with a stack is the recursive pre-order, over every finite tree and wherever nodes show
it. The walk in place ends, meets each text and element that recursion meets once and in its order,
and finds all there are unless a bare parent hides some. The tree can be copied exactly if it has no
bare node and no bare parent, and the walk over a copy meets nodes with the same contents. -/
theorem walk_is_preorder (t : Node) :
    t.walk = t.preorder ∧
    (t.isOpen = true → t.walk = t.allNodes.filter Node.isWalked) ∧
    ∀ (f : Forest) (n : NodeId), f.Consistent → n < f.size → Shows f n t →
      WalksThrough f n t ∧
      ((∃ m g, f.clone f.depthBound n = ⟨.ok m, g⟩) ↔ t.isClonable = true) ∧
      ∀ fuel m g, f.clone fuel n = ⟨.ok m, g⟩ →
        WalksThrough g m t ∧ (g.walk m).map g.content = (f.walk n).map f.content := by
  refine ⟨t.walk_eq_preorder, fun opened => ?_, fun f n consistent here shown => ?_⟩
  · rw [t.walk_eq_preorder, t.filter_allNodes opened]
  · have walks := shown.walksThrough consistent here
    refine ⟨walks, shown.clone_succeeds_iff consistent here, fun fuel m g done => ?_⟩
    obtain ⟨clonable, low⟩ := shown.clonable consistent here (.refl f) consistent done
    obtain ⟨_, _, again, copied⟩ := shown.clone clonable low (.refl f) consistent
    cases again.symm.trans done
    cases copied.shows with
    | cons shows _ =>
      have walks' := shows.walksThrough copied.consistent
        (copied.fresh _ (List.mem_singleton_self _)).2
      exact ⟨walks', by rw [walks'.contents, walks.contents]⟩

end

/-- A tree with a comment, an empty text and a fragment inside. -/
def hedgeTree : Node :=
  .fragment [.element "p" [(some "id", some "x")] [] [.text "a", .comment "c"],
    .fragment [.text "", .element "br" [] [] []]]

/-- A forest that has it at its third node, and a text that belongs to nothing. -/
def hedge : Forest := ⟨#[⟨.text "a", some 3, []⟩, ⟨.comment "c", some 3, []⟩,
  ⟨.fragment, none, [3, 6]⟩, ⟨.element "p" [(some "id", some "x")] [], some 2, [0, 1]⟩,
  ⟨.text "", some 6, []⟩, ⟨.element "br" [] [], some 6, []⟩, ⟨.fragment, some 2, [4, 5]⟩,
  ⟨.text "b", none, []⟩]⟩

theorem hedge_shows : hedge.Shows 2 hedgeTree :=
  .intro rfl (.cons (.intro rfl (.cons (.intro rfl .nil) (.cons (.intro rfl .nil) .nil)))
    (.cons (.intro rfl (.cons (.intro rfl .nil) (.cons (.intro rfl .nil) .nil))) .nil))

theorem hedge_walks : hedge.Consistent ∧ 2 < hedge.size ∧ hedge.Shows 2 hedgeTree ∧
    hedgeTree.isOpen = true ∧ hedgeTree.walk = hedgeTree.allNodes.filter Node.isWalked ∧
    hedge.walk 2 = [3, 0, 4, 5] ∧ WalksThrough hedge 2 hedgeTree ∧
    ∃ m g, hedge.clone hedge.depthBound 2 = ⟨.ok m, g⟩ ∧ WalksThrough g m hedgeTree ∧
      (g.walk m).map g.content = (hedge.walk 2).map hedge.content := by
  have consistent : hedge.Consistent := by decide
  have here : 2 < hedge.size := by decide
  have opened : hedgeTree.isOpen = true := by decide
  obtain ⟨-, filtered, inPlace⟩ := walk_is_preorder hedgeTree
  obtain ⟨walks, copyable, copies⟩ := inPlace hedge 2 consistent here hedge_shows
  obtain ⟨m, g, done⟩ := copyable.mpr (by decide)
  exact ⟨consistent, here, hedge_shows, opened, filtered opened, by rfl, walks, m, g, done,
    copies _ m g done⟩

end Forest
end LiveTemplate
