import LiveTemplate.Proofs.Forest.Traversal
import LiveTemplate.Proofs.Markup.Spine
import Mathlib.Data.List.Forall2

/-! Building by edits in place. The nodes of the tree so far are made one after the other and
appended where they belong; of the open elements only a stack of nodes is kept, and data behind a
text is written into it. What such a stack stands for is the builder of trees: a node of the stack
has the children closed so far and, last of all, the next node of the stack. Since nodes are
numbered in the order of the tree, an edit at the end disturbs nothing before it. -/
namespace LiveTemplate.Markup.InPlace

open Builder (firstOfEach)

/-- The innermost open node; the root of the tree is node zero and always open. -/
def current (stack : List NodeId) : NodeId := stack.headD 0

/-- A new last child of the innermost open node. -/
def grow (content : Content Value) (stack : List NodeId) (f : Forest) : Outcome NodeId :=
  let (n, f) := f.add content
  (f.append (current stack) n).andThen fun _ f => ⟨.ok n, f⟩

/-- The last child of a node with its characters, if it is a text. -/
def lastText? (f : Forest) (n : NodeId) : Option (NodeId × String) :=
  (f.children n).getLast?.bind fun last => match f.content last with
    | .text data => some (last, data)
    | _ => none

def isNamed (f : Forest) (tag : String) (n : NodeId) : Bool :=
  match f.content n with
  | .element own _ _ => own = tag
  | _ => false

def take (strict : Bool) (stack : List NodeId) (f : Forest) : Token → Outcome (List NodeId)
  | .startTag tag attributes =>
    (grow (.element tag (firstOfEach attributes) []) stack f).andThen fun n f =>
      ⟨.ok (if isVoid tag then stack else n :: stack), f⟩
  | .emptyTag tag attributes =>
    (grow (.element tag (firstOfEach attributes) []) stack f).andThen fun _ f => ⟨.ok stack, f⟩
  | .endTag tag place => match stack.findIdx? (isNamed f tag) with
    | some depth => ⟨.ok (stack.drop (depth + 1)), f⟩
    | none =>
      if strict && !isVoid tag then ⟨.error (.strayEndTag tag place), f⟩ else ⟨.ok stack, f⟩
  | .data text => match lastText? f (current stack) with
    | some (last, before) => ⟨.ok stack, f.mapContent last (·.setText (before ++ text))⟩
    | none => (grow (.text text) stack f).andThen fun _ f => ⟨.ok stack, f⟩
  | .comment text => (grow (.comment text) stack f).andThen fun _ f => ⟨.ok stack, f⟩

def takeAll (strict : Bool) : List Token → List NodeId → Forest → Outcome (List NodeId)
  | [], stack, f => ⟨.ok stack, f⟩
  | token :: tokens, stack, f => (take strict stack f token).andThen (takeAll strict tokens)

/-- An empty root. -/
def seed : Forest := (Forest.empty.add .fragment).2

section Frame

mutual

/-- A tree is shown as long as its own nodes stay. -/
theorem frame {f g : Forest} {n : NodeId} {t : Node} : f.Shows n t →
    (∀ m ∈ f.every n t, g.content m = f.content m ∧ g.children m = f.children m) →
      g.Shows n t ∧ g.every n t = f.every n t
  | .intro content below, same => by
    rw [Forest.every_eq] at same
    obtain ⟨⟨ownContent, ownChildren⟩, inner⟩ := List.forall_mem_cons.mp same
    obtain ⟨shown, nodes⟩ := frameAll below inner
    rw [← ownChildren] at shown nodes
    refine ⟨.intro (ownContent.trans content) shown, ?_⟩
    rw [Forest.every_eq, Forest.every_eq, nodes, ownChildren]

theorem frameAll {f g : Forest} {ns : List NodeId} {ts : List Node} : f.ShowsAll ns ts →
    (∀ m ∈ f.everyAmong ns ts, g.content m = f.content m ∧ g.children m = f.children m) →
      g.ShowsAll ns ts ∧ g.everyAmong ns ts = f.everyAmong ns ts
  | .nil, _ => ⟨.nil, rfl⟩
  | .cons first rest, same => by
    rw [Forest.everyAmong] at same
    obtain ⟨here, later⟩ := List.forall_mem_append.mp same
    obtain ⟨shown, nodes⟩ := frame first here
    obtain ⟨others, numbers⟩ := frameAll rest later
    exact ⟨.cons shown others, by rw [Forest.everyAmong, Forest.everyAmong, nodes, numbers]⟩

end

theorem everyAmong_append {f : Forest} {ns ms : List NodeId} {ts us : List Node}
    (shown : f.ShowsAll ns ts) :
    f.everyAmong (ns ++ ms) (ts ++ us) = f.everyAmong ns ts ++ f.everyAmong ms us := by
  induction ns generalizing ts with
  | nil => cases shown; rfl
  | cons n ns ih =>
    cases shown with
    | cons first rest => simp [Forest.everyAmong, ih rest]

end Frame

/-- A node shows a tree whose nodes are numbered in the order of the tree. -/
structure Stands (f : Forest) (n : NodeId) (t : Node) : Prop where
  shows : f.Shows n t
  numbered : f.every n t = List.range' n t.size

/-- Below a node stand some trees and after them `inner`; they are numbered in their order, up to
before `next`. -/
structure Level (f : Forest) (n : NodeId) (ts : List Node) (inner : List NodeId) (next : Nat) :
    Prop where
  children : ∃ ids, f.children n = ids ++ inner ∧ f.ShowsAll ids ts ∧
    f.everyAmong ids ts = List.range' (n + 1) (Node.sizes ts)
  next : next = n + 1 + Node.sizes ts

/-- The nodes of a stack, the innermost first, stand for the open elements of a builder, the last
for its top level. The innermost ends with the nodes `inner`, and each of the others with the one
before it. -/
inductive Holds (f : Forest) : List NodeId → Builder → (inner : List NodeId) → (next : Nat) → Prop
  | top {top : List Node} {inner : List NodeId} {next : Nat} :
      f.content 0 = .fragment → Level f 0 top.reverse inner next → Holds f [0] ⟨[], top⟩ inner next
  | opened {n next : Nat} {stack inner : List NodeId} {e : OpenElement} {es : List OpenElement}
      {top : List Node} :
      f.content n = .element e.tag e.attributes [] → Level f n e.children.reverse inner next →
      Holds f stack ⟨es, top⟩ [n] n → Holds f (n :: stack) ⟨e :: es, top⟩ inner next

section Levels

variable {f g : Forest} {n next : Nat} {t : Node} {ts : List Node} {inner : List NodeId}

theorem Stands.frame (stands : Stands f n t)
    (same : ∀ m < n + t.size, g.content m = f.content m ∧ g.children m = f.children m) :
    Stands g n t := by
  obtain ⟨shows, numbered⟩ := stands
  obtain ⟨shown, nodes⟩ := InPlace.frame (g := g) shows fun m member => by
    rw [numbered, List.mem_range'_1] at member
    exact same m member.2
  exact ⟨shown, nodes.trans numbered⟩

theorem Level.lt (level : Level f n ts inner next) : n < next := by
  have reached := level.next
  omega

theorem Level.frame (level : Level f n ts inner next)
    (same : ∀ m < next, g.content m = f.content m ∧ g.children m = f.children m) :
    Level g n ts inner next := by
  obtain ⟨⟨ids, children, shown, numbered⟩, rfl⟩ := level
  obtain ⟨shown, nodes⟩ := frameAll (g := g) shown fun m member => by
    rw [numbered, List.mem_range'_1] at member
    exact same m member.2
  exact ⟨⟨ids, (same n (by omega)).2.trans children, shown, nodes.trans numbered⟩, rfl⟩

/-- What stands last is counted to the trees. -/
theorem Level.close (level : Level f n ts [next] next) (stands : Stands f next t) :
    Level f n (ts ++ [t]) [] (next + t.size) := by
  obtain ⟨⟨ids, children, shown, numbered⟩, reached⟩ := level
  refine ⟨⟨ids ++ [next], by rw [children, List.append_nil], shown.append (.cons stands.shows .nil),
    ?_⟩, ?_⟩
  · have last : f.everyAmong [next] [t] = List.range' next t.size := by
      simpa [Forest.everyAmong] using stands.numbered
    rw [everyAmong_append shown, numbered, last, reached, List.range'_append_1, Node.sizes_append]
    simp [Node.sizes]
  · rw [reached, Node.sizes_append]
    simp [Node.sizes]
    omega

/-- A node that ends with the trees below it shows a tree itself. -/
theorem Level.stands (level : Level f n ts [] next) (content : f.content n = t.content)
    (children : t.children = ts) : Stands f n t ∧ next = n + t.size := by
  obtain ⟨⟨ids, listed, shown, numbered⟩, reached⟩ := level
  subst children
  rw [List.append_nil] at listed
  refine ⟨⟨.intro content (by rw [listed]; exact shown), ?_⟩, ?_⟩
  · rw [Forest.every_eq, listed, t.size_eq, Nat.add_comm 1, List.range'_succ, numbered]
  · rw [reached, t.size_eq, Nat.add_assoc]

theorem shown_append {ids : List NodeId} {ts us : List Node} (shown : f.ShowsAll ids (ts ++ us)) :
    ∃ front back, ids = front ++ back ∧ f.ShowsAll front ts ∧ f.ShowsAll back us := by
  induction ts generalizing ids with
  | nil => exact ⟨[], ids, rfl, .nil, shown⟩
  | cons t ts ih =>
    cases shown with
    | cons first rest =>
      obtain ⟨front, back, rfl, before, behind⟩ := ih rest
      exact ⟨_ :: front, back, rfl, .cons first before, behind⟩

/-- What was counted to the trees last is the last child. -/
theorem Level.reopen (level : Level f n (ts ++ [t]) [] next) : ∃ c,
    f.children n = (f.children n).dropLast ++ [c] ∧ Level f n ts [c] c ∧ Stands f c t ∧
      next = c + t.size := by
  obtain ⟨⟨ids, children, shown, numbered⟩, reached⟩ := level
  obtain ⟨front, back, rfl, before, behind⟩ := shown_append shown
  cases behind with
  | @cons c t _ _ first rest =>
    cases rest
    have last : f.everyAmong [c] [t] = f.every c t := by simp [Forest.everyAmong]
    rw [everyAmong_append before, last, Node.sizes_append, ← List.range'_append_1] at numbered
    obtain ⟨outer, own⟩ := List.append_inj numbered (by simp [before.length_everyAmong])
    rw [Forest.every_eq, Node.sizes, Node.sizes, Nat.add_zero, t.size_eq, Nat.add_comm 1,
      List.range'_succ] at own
    obtain ⟨rfl, inside⟩ := List.cons.inj own
    rw [List.append_nil] at children
    refine ⟨_, by simp [children], ⟨⟨front, children, before, outer⟩, rfl⟩, ⟨first, ?_⟩, ?_⟩
    · rw [Forest.every_eq, t.size_eq, Nat.add_comm 1, List.range'_succ, inside]
    · rw [reached, Node.sizes_append]
      simp [Node.sizes]
      omega

end Levels

section Stack

variable {f g : Forest} {stack inner : List NodeId} {b : Builder} {t : Node} {n next : Nat}

theorem Holds.frame (holds : Holds f stack b inner next)
    (same : ∀ m < next, g.content m = f.content m ∧ g.children m = f.children m) :
    Holds g stack b inner next := by
  induction holds with
  | top content level =>
    have inside := level.next
    exact .top ((same 0 (by omega)).1.trans content) (level.frame same)
  | opened content level _ ih =>
    have inside := level.next
    exact .opened ((same _ (by omega)).1.trans content) (level.frame same)
      (ih fun m before => same m (by omega))

/-- The children of the innermost open element, or of the top level, the latest first. -/
def latest (b : Builder) : List Node :=
  match b.stack with
  | [] => b.top
  | e :: _ => e.children

theorem mapChildren_eq (b : Builder) (f : List Node → List Node) :
    b.mapChildren f = b.mapChildren fun _ => f (latest b) := by
  obtain ⟨_ | _, _⟩ := b <;> rfl

theorem Holds.level (holds : Holds f stack b inner next) :
    Level f (current stack) (latest b).reverse inner next := by
  cases holds with
  | top _ level => exact level
  | opened _ level _ => exact level

/-- Only the innermost open node has to be looked at again when its children are others. -/
theorem Holds.relevel {others : List NodeId} {last : Nat} (holds : Holds f stack b inner next)
    {children : List Node} (level : Level f (current stack) children.reverse others last) :
    Holds f stack (b.mapChildren fun _ => children) others last := by
  cases holds with
  | top content _ => exact .top content level
  | opened content _ outer => exact .opened content level outer

theorem Holds.current_lt (holds : Holds f stack b inner next) : current stack < next :=
  holds.level.lt

theorem Holds.add (holds : Holds f stack b [next] next) (stands : Stands f next t) :
    Holds f stack (b.add t) [] (next + t.size) := by
  rw [Builder.add, mapChildren_eq]
  exact holds.relevel (by simpa using holds.level.close stands)

/-- An open element is closed as it stands; nothing has to be done. -/
theorem Holds.close {e : OpenElement} {es : List OpenElement} {top : List Node}
    (holds : Holds f (n :: stack) ⟨e :: es, top⟩ [] next) :
    Holds f stack (Builder.closeInnermost ⟨e :: es, top⟩) [] next := by
  obtain - | ⟨content, level, outer⟩ := holds
  obtain ⟨stands, rfl⟩ := level.stands (t := e.close) content rfl
  exact outer.add stands

theorem stands_of_leaf (content : f.content n = t.content) (leaf : t.children = [])
    (childless : f.children n = []) : Stands f n t := by
  refine ⟨.intro content (by rw [leaf, childless]; exact .nil), ?_⟩
  rw [Forest.every_eq, t.size_eq, leaf, childless]
  rfl

/-- What the builder has latest is the last child of the innermost open node. -/
theorem Holds.reopen {rest : List Node} (holds : Holds f stack b [] next)
    (found : latest b = t :: rest) : ∃ c, (f.children (current stack)).getLast? = some c ∧
      Holds f stack (b.mapChildren fun _ => rest) [c] c ∧ Stands f c t ∧ next = c + t.size := by
  have level := holds.level
  rw [found, List.reverse_cons] at level
  obtain ⟨c, children, level, stands, reached⟩ := level.reopen
  refine ⟨c, ?_, holds.relevel level, stands, reached⟩
  rw [children, List.getLast?_concat]

theorem Holds.childless (holds : Holds f stack b [] next) (found : latest b = []) :
    f.children (current stack) = [] := by
  obtain ⟨⟨ids, children, shown, -⟩, -⟩ := holds.level
  rw [found] at shown
  rw [children, shown.eq_nil, List.append_nil]

end Stack

section Grow

variable {f g : Forest} {stack : List NodeId} {b : Builder} {t : Node} {n next : Nat}
  {content : Content Value}

/-- A forest with one more node, which is the last child of `p`. -/
structure Grown (f : Forest) (p : NodeId) (content : Content Value) (g : Forest) : Prop where
  consistent : g.Consistent
  size : g.size = f.size + 1
  content : ∀ m, g.content m = if m = f.size then content else f.content m
  children : ∀ q, g.children q = if q = p then f.children p ++ [f.size] else f.children q

theorem exists_grown (consistent : f.Consistent) (content : Content Value)
    (above : current stack < f.size) :
    ∃ g, grow content stack f = ⟨.ok f.size, g⟩ ∧ Grown f (current stack) content g := by
  have alone : f.parent f.size = none := by
    rw [Forest.parent, Forest.cell_of_size_le (Nat.le_refl _)]
    rfl
  have missing (q : NodeId) : (f.children q).filter (· ≠ f.size) = f.children q := by
    refine List.filter_eq_self.mpr fun m member => ?_
    simpa using fun same : m = f.size => consistent.notMem_of_detached alone (same ▸ member)
  obtain ⟨g, appended, moved⟩ := (consistent.add content).append
    (by rw [Forest.size_add]; exact Nat.lt_succ_self _ : f.size < (f.add content).2.size)
    (by rw [Forest.size_add]; exact Nat.lt_succ_of_lt above)
  refine ⟨g, ?_, moved.consistent, ?_, fun m => ?_, fun q => ?_⟩
  · rw [grow]
    simp only [Forest.add_fst, appended]
    rfl
  · rw [moved.size, Forest.size_add]
  · rw [moved.content, Forest.content_add]
  · rw [moved.children]
    simp only [Forest.children_add, missing]

theorem Grown.same {p m : Nat} (grown : Grown f p content g) (old : m < f.size) (other : m ≠ p) :
    g.content m = f.content m ∧ g.children m = f.children m :=
  ⟨by rw [grown.content, if_neg (Nat.ne_of_lt old)], by rw [grown.children, if_neg other]⟩

theorem Level.grown {ts : List Node} (level : Level f n ts [] f.size)
    (grown : Grown f n content g) : Level g n ts [f.size] f.size := by
  obtain ⟨⟨ids, children, shown, numbered⟩, reached⟩ := level
  obtain ⟨shown, nodes⟩ := frameAll (g := g) shown fun m member => by
    rw [numbered, List.mem_range'_1] at member
    exact grown.same (by omega) (by omega)
  refine ⟨⟨ids, ?_, shown, nodes.trans numbered⟩, reached⟩
  rw [grown.children, if_pos rfl, children, List.append_nil]

/-- A new node stands behind what was there. -/
theorem Holds.grown (holds : Holds f stack b [] f.size)
    (grown : Grown f (current stack) content g) : Holds g stack b [f.size] f.size := by
  have above := holds.current_lt
  generalize size : f.size = next at holds above
  cases holds with
  | top own level =>
    subst size
    exact .top (by rw [grown.content, if_neg (Nat.ne_of_lt level.lt), own]) (level.grown grown)
  | opened own level outer =>
    subst size
    refine .opened (by rw [grown.content, if_neg (Nat.ne_of_lt level.lt), own])
      (level.grown grown) (outer.frame fun m before => ?_)
    exact grown.same (Nat.lt_trans before level.lt) (Nat.ne_of_lt before)

theorem Grown.childless {p : Nat} (grown : Grown f p content g) (above : p < f.size) :
    g.children f.size = [] := by
  rw [grown.children, if_neg (Nat.ne_of_gt above), Forest.children,
    Forest.cell_of_size_le (Nat.le_refl _)]
  rfl

/-- A new node without children is closed at once. -/
theorem Holds.leaf (holds : Holds f stack b [] f.size) (leaf : t.children = [])
    (grown : Grown f (current stack) t.content g) : Holds g stack (b.add t) [] g.size := by
  have stands : Stands g f.size t := stands_of_leaf (by rw [grown.content, if_pos rfl]) leaf
    (grown.childless holds.current_lt)
  have added := (holds.grown grown).add stands
  rwa [t.size_eq, leaf, Node.sizes, Nat.add_zero, ← grown.size] at added

theorem Holds.push {tag : String} {attributes : Attributes} (holds : Holds f stack b [] f.size)
    (grown : Grown f (current stack) (.element tag attributes []) g) :
    Holds g (f.size :: stack) ⟨⟨tag, attributes, []⟩ :: b.stack, b.top⟩ [] g.size := by
  have childless := grown.childless holds.current_lt
  refine .opened (by rw [grown.content, if_pos rfl]) ⟨⟨[], childless, .nil, rfl⟩, ?_⟩
    (holds.grown grown)
  rw [grown.size]
  rfl

/-- The characters of the last child may be written anew. -/
theorem Holds.rewrite {before : String} {rest : List Node} (holds : Holds f stack b [] next)
    (found : latest b = .text before :: rest) (small : next ≤ f.size) (after : String) :
    ∃ c, lastText? f (current stack) = some (c, before) ∧
      Holds (f.mapContent c (·.setText after)) stack (b.mapChildren fun _ => .text after :: rest)
        [] next := by
  obtain ⟨c, last, behind, ⟨⟨content, below⟩, -⟩, rfl⟩ := holds.reopen found
  have inside : c < f.size := Nat.lt_of_lt_of_le (Nat.lt_succ_self c) small
  refine ⟨c, by simp [lastText?, last, content, Node.content], ?_⟩
  have stands : Stands (f.mapContent c (·.setText after)) c (.text after) := by
    refine stands_of_leaf ?_ rfl ?_
    · rw [Forest.content_mapContent _ inside, if_pos rfl, content]
      rfl
    · rw [Forest.children_mapContent, below.eq_nil]
  have kept : Holds (f.mapContent c (·.setText after)) stack (b.mapChildren fun _ => rest) [c] c :=
    behind.frame fun m earlier =>
      ⟨by rw [Forest.content_mapContent _ inside, if_neg (Nat.ne_of_lt earlier)],
        Forest.children_mapContent _⟩
  have added := kept.add stands
  rwa [show (b.mapChildren fun _ => rest).add (.text after) =
    b.mapChildren fun _ => .text after :: rest by obtain ⟨_ | _, _⟩ := b <;> rfl] at added

theorem Holds.lastText?_eq_none (holds : Holds f stack b [] next)
    (other : ∀ before rest, latest b ≠ .text before :: rest) :
    lastText? f (current stack) = none := by
  cases found : latest b with
  | nil => rw [lastText?, holds.childless found]; rfl
  | cons t rest =>
    obtain ⟨c, last, -, ⟨⟨content, -⟩, -⟩, -⟩ := holds.reopen found
    rw [lastText?, last, Option.bind_some, content]
    cases t with
    | text before => exact absurd found (other before rest)
    | _ => rfl

/-- The stack has a name where the builder has it. -/
theorem Holds.findIdx?_isNamed {inner : List NodeId} (holds : Holds f stack b inner next)
    (tag : String) : stack.findIdx? (isNamed f tag) = b.stack.findIdx? (·.tag = tag) := by
  induction holds with
  | top content _ => simp [isNamed, content]
  | opened content _ _ ih =>
    simp only [List.findIdx?_cons, ih, isNamed, content]

theorem Holds.closeMany {count : Nat} (holds : Holds f stack b [] next)
    (enough : count ≤ b.stack.length) :
    Holds f (stack.drop count) (Builder.closeMany count b) [] next := by
  induction count generalizing stack b with
  | zero => exact holds
  | succ count ih =>
    cases holds with
    | top content level => cases enough
    | @opened n _ stack _ e es top content level outer =>
      rw [List.drop_succ_cons, Builder.closeMany]
      refine ih (Holds.close (.opened content level outer)) ?_
      rw [Builder.length_closeInnermost]
      exact Nat.le_of_succ_le_succ enough

end Grow

/-- A consistent forest with a stack for a builder. -/
structure Building (f : Forest) (stack : List NodeId) (b : Builder) : Prop where
  consistent : f.Consistent
  holds : Holds f stack b [] f.size

section Run

variable {f : Forest} {stack : List NodeId} {b : Builder}

theorem building_seed : Building seed [0] .empty where
  consistent := by decide
  holds := .top rfl ⟨⟨[], rfl, .nil, rfl⟩, rfl⟩

theorem Building.leaf (building : Building f stack b) (content : Content Value) :
    ∃ n g, grow content stack f = ⟨.ok n, g⟩ ∧ Building g stack (b.add (content.toNode [])) := by
  have own : (content.toNode []).content = content := by cases content <;> rfl
  have leaf : (content.toNode []).children = [] := by cases content <;> rfl
  obtain ⟨g, done, grown⟩ := exists_grown building.consistent content building.holds.current_lt
  rw [← own] at grown
  exact ⟨_, g, done, grown.consistent, building.holds.leaf leaf grown⟩

theorem Building.push (building : Building f stack b) (tag : String) (attributes : Attributes) :
    ∃ n g, grow (.element tag attributes []) stack f = ⟨.ok n, g⟩ ∧
      Building g (n :: stack) { b with stack := ⟨tag, attributes, []⟩ :: b.stack } := by
  obtain ⟨g, done, grown⟩ := exists_grown building.consistent (.element tag attributes [])
    building.holds.current_lt
  exact ⟨_, g, done, grown.consistent, building.holds.push grown⟩

theorem Building.data (building : Building f stack b) (strict : Bool) (text : String) :
    ∃ g, take strict stack f (.data text) = ⟨.ok stack, g⟩ ∧
      Building g stack (b.mapChildren (Builder.joinData text)) := by
  rw [mapChildren_eq]
  by_cases merges : ∃ before rest, latest b = .text before :: rest
  · obtain ⟨before, rest, found⟩ := merges
    obtain ⟨c, last, holds⟩ := building.holds.rewrite found (Nat.le_refl _) (before ++ text)
    refine ⟨_, by rw [take, last], building.consistent.mapContent _, ?_⟩
    rw [found, Forest.size_mapContent]
    exact holds
  · have other : ∀ before rest, latest b ≠ .text before :: rest :=
      fun before rest found => merges ⟨before, rest, found⟩
    obtain ⟨n, g, done, grown⟩ := building.leaf (.text text)
    refine ⟨g, by rw [take, building.holds.lastText?_eq_none other, done]; rfl, ?_⟩
    have apart : Builder.joinData text (latest b) = .text text :: latest b := by
      unfold Builder.joinData
      split
      · next found => exact absurd found (other _ _)
      · rfl
    rw [apart, ← mapChildren_eq b (.text text :: ·)]
    exact grown

theorem Building.endTag (building : Building f stack b) (strict : Bool) (tag : String)
    (place : Text.Position) :
    match b.endTag strict tag place with
    | .ok c => ∃ left, take strict stack f (.endTag tag place) = ⟨.ok left, f⟩ ∧ Building f left c
    | .error error => (take strict stack f (.endTag tag place)).result = .error error := by
  rw [Builder.endTag, Builder.closedBy?, take, building.holds.findIdx?_isNamed]
  cases found : b.stack.findIdx? (·.tag = tag) with
  | some depth =>
    have inside := (List.findIdx?_eq_some_iff_getElem.mp found).1
    exact ⟨_, rfl, building.consistent, building.holds.closeMany inside⟩
  | none =>
    dsimp only [Option.map_none]
    by_cases refused : (strict && !isVoid tag) = true
    · rw [if_pos refused, if_pos refused]
    · rw [if_neg refused, if_neg refused]
      exact ⟨stack, rfl, building⟩

/-- A token does to the nodes what it does to the builder. -/
theorem Building.take (building : Building f stack b) (strict : Bool) (token : Token) :
    match b.take strict token with
    | .ok c => ∃ left g, take strict stack f token = ⟨.ok left, g⟩ ∧ Building g left c
    | .error error => (take strict stack f token).result = .error error := by
  cases token with
  | startTag tag attributes =>
    rw [Builder.take, InPlace.take]
    by_cases void : isVoid tag = true
    · obtain ⟨n, g, done, grown⟩ := building.leaf (.element tag (firstOfEach attributes) [])
      rw [if_pos void, done]
      exact ⟨stack, g, by simp [Outcome.andThen, void], grown⟩
    · obtain ⟨n, g, done, grown⟩ := building.push tag (firstOfEach attributes)
      rw [if_neg void, done]
      exact ⟨n :: stack, g, by simp [Outcome.andThen, void], grown⟩
  | emptyTag tag attributes =>
    obtain ⟨n, g, done, grown⟩ := building.leaf (.element tag (firstOfEach attributes) [])
    rw [Builder.take, InPlace.take, done]
    exact ⟨stack, g, rfl, grown⟩
  | endTag tag place =>
    have closed := building.endTag strict tag place
    rw [Builder.take]
    cases outcome : b.endTag strict tag place with
    | ok c =>
      rw [outcome] at closed
      obtain ⟨left, done, holds⟩ := closed
      exact ⟨left, f, done, holds⟩
    | error error =>
      rw [outcome] at closed
      exact closed
  | data text =>
    obtain ⟨g, done, grown⟩ := building.data strict text
    exact ⟨stack, g, done, grown⟩
  | comment text =>
    obtain ⟨n, g, done, grown⟩ := building.leaf (.comment text)
    rw [Builder.take, InPlace.take, done]
    exact ⟨stack, g, rfl, grown⟩

theorem Building.takeAll (building : Building f stack b) (strict : Bool) (tokens : List Token) :
    match b.takeAll strict tokens with
    | .ok c => ∃ left g, takeAll strict tokens stack f = ⟨.ok left, g⟩ ∧ Building g left c
    | .error error => (takeAll strict tokens stack f).result = .error error := by
  induction tokens generalizing f stack b with
  | nil => exact ⟨stack, f, rfl, building⟩
  | cons token tokens ih =>
    have step := building.take strict token
    rw [Builder.takeAll, InPlace.takeAll]
    cases outcome : b.take strict token with
    | ok c =>
      rw [outcome] at step
      obtain ⟨left, g, done, grown⟩ := step
      rw [done]
      exact ih grown
    | error error =>
      rw [outcome] at step
      simp only [Outcome.andThen, step]

end Run

section Finish

variable {f : Forest} {stack : List NodeId} {b : Builder} {next : Nat}

/-- The stack shows the open nodes of the builder, and its last node the whole tree. -/
theorem Holds.shown (holds : Holds f stack b [] next) :
    List.Forall₂ f.Shows stack.reverse b.openNodes ∧ Stands f 0 (.fragment b.finish) ∧
      next = (Node.fragment b.finish).size := by
  induction stack generalizing b with
  | nil => cases holds
  | cons n stack ih =>
    cases holds with
    | top content level =>
      obtain ⟨stands, reached⟩ := level.stands (t := .fragment _) content rfl
      exact ⟨.cons stands.shows .nil, stands, by rw [reached, Nat.zero_add]; rfl⟩
    | @opened _ _ _ _ e es top content level outer =>
      obtain ⟨others, whole, size⟩ := ih (Holds.close (.opened content level outer))
      have own := (level.stands (t := e.close) content rfl).1.shows
      rw [Builder.openNodes_of_open, Builder.finish_of_open, List.reverse_cons]
      exact ⟨List.rel_append others (.cons own .nil), whole, size⟩

end Finish

/-- Building by edits in place fails where the builder of trees fails, with the same error. What it
builds otherwise is the same: in the end the nodes of the stack show the open elements, the root
shows the whole tree, and the nodes are numbered in the order of the tree. -/
theorem takeAll_shows (strict : Bool) (tokens : List Token) :
    match Builder.takeAll strict tokens .empty with
    | .ok b => ∃ stack f, takeAll strict tokens [0] seed = ⟨.ok stack, f⟩ ∧ f.Consistent ∧
        List.Forall₂ f.Shows stack.reverse b.openNodes ∧ f.Shows 0 (.fragment b.finish) ∧
        f.every 0 (.fragment b.finish) = List.range f.size
    | .error error => (takeAll strict tokens [0] seed).result = .error error := by
  have run := building_seed.takeAll strict tokens
  cases outcome : Builder.takeAll strict tokens .empty with
  | ok b =>
    rw [outcome] at run
    obtain ⟨stack, f, done, consistent, holds⟩ := run
    obtain ⟨opened, ⟨shows, numbered⟩, size⟩ := holds.shown
    refine ⟨stack, f, done, consistent, opened, shows, ?_⟩
    rw [numbered, List.range_eq_range', size]
  | error error =>
    rw [outcome] at run
    exact run

end LiveTemplate.Markup.InPlace
