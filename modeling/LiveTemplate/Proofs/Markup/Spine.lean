import LiveTemplate.Proofs.Markup.Passage
import Mathlib.Data.List.Chain

/-! The open elements of a builder as nodes of the tree so far. They go down its right edge: each is
the last child of the one before it. An end tag cuts them off at the innermost of its name and
leaves the tree as it is. -/
namespace LiveTemplate

/-- The tag of an element. -/
def Node.tag? : Node → Option String
  | element tag _ _ _ => some tag
  | _ => none

namespace Markup.Builder

/-- What is being added to, as it stands: the innermost open element, or the top level. -/
def current (b : Builder) : Node :=
  match b.stack with
  | [] => .fragment b.top.reverse
  | e :: _ => e.close

/-- The innermost `count` open elements below what they are in, each with everything in it. -/
def openFrom : (count : Nat) → Builder → List Node
  | 0, b => [b.current]
  | count + 1, b => openFrom count b.closeInnermost ++ [b.current]

/-- The top level and the open elements, the innermost last, as they stand in the tree so far. -/
def openNodes (b : Builder) : List Node := openFrom b.stack.length b

/-- The tags of the open elements, the innermost last. -/
def openTags (b : Builder) : List String := b.openNodes.filterMap Node.tag?

theorem tags_mapChildren (b : Builder) (f : List Node → List Node) :
    (b.mapChildren f).stack.map (·.tag) = b.stack.map (·.tag) := by
  obtain ⟨_ | ⟨e, stack⟩, top⟩ := b <;> rfl

theorem tags_closeInnermost (e : OpenElement) (stack : List OpenElement) (top : List Node) :
    (closeInnermost ⟨e :: stack, top⟩).stack.map (·.tag) = stack.map (·.tag) :=
  tags_mapChildren ⟨stack, top⟩ (e.close :: ·)

theorem length_closeInnermost (e : OpenElement) (stack : List OpenElement) (top : List Node) :
    (closeInnermost ⟨e :: stack, top⟩).stack.length = stack.length := by
  have lengths := congrArg List.length (tags_closeInnermost e stack top)
  rwa [List.length_map, List.length_map] at lengths

/-- What holds with nothing open and is not lost by opening an element holds of every builder. -/
theorem closing_induction {motive : Builder → Prop} (flat : ∀ top, motive ⟨[], top⟩)
    (opened : ∀ e stack top, motive (closeInnermost ⟨e :: stack, top⟩) → motive ⟨e :: stack, top⟩)
    (b : Builder) : motive b := by
  obtain ⟨stack, top⟩ := b
  generalize depth : stack.length = count
  induction count generalizing stack top with
  | zero =>
    rw [List.eq_nil_of_length_eq_zero depth]
    exact flat top
  | succ count ih =>
    cases stack with
    | nil => cases depth
    | cons e stack =>
      refine opened e stack top (ih _ _ ?_)
      exact (length_closeInnermost e stack top).trans (Nat.succ.inj depth)

section Opened

variable (e : OpenElement) (stack : List OpenElement) (top : List Node)

theorem openNodes_of_open : openNodes ⟨e :: stack, top⟩ =
    (closeInnermost ⟨e :: stack, top⟩).openNodes ++ [e.close] := by
  rw [openNodes, openNodes, length_closeInnermost]
  rfl

theorem finish_of_open : finish ⟨e :: stack, top⟩ = (closeInnermost ⟨e :: stack, top⟩).finish := by
  rw [finish, finish, length_closeInnermost]
  rfl

theorem closedBy?_of_open (tag : String) : closedBy? tag ⟨e :: stack, top⟩ =
    if e.tag = tag then some 1
    else ((closeInnermost ⟨e :: stack, top⟩).closedBy? tag).map (· + 1) := by
  have byTags (b : Builder) :
      b.closedBy? tag = ((b.stack.map (·.tag)).findIdx? (· = tag)).map (· + 1) := by
    rw [closedBy?, List.findIdx?_map]
    rfl
  rw [byTags, byTags, tags_closeInnermost, List.map_cons, List.findIdx?_cons]
  by_cases same : e.tag = tag
  · simp [same]
  · simp [same]

end Opened

theorem openTags_eq (b : Builder) : b.openTags = (b.stack.map (·.tag)).reverse := by
  induction b using closing_induction with
  | flat top => rfl
  | opened e stack top ih =>
    rw [openTags, openNodes_of_open, List.filterMap_append, ← openTags, ih, tags_closeInnermost,
      List.map_cons, List.reverse_cons]
    rfl

theorem openTags_mapChildren (b : Builder) (f : List Node → List Node) :
    (b.mapChildren f).openTags = b.openTags := by
  rw [openTags_eq, openTags_eq, tags_mapChildren]

theorem getLast?_openNodes (b : Builder) : b.openNodes.getLast? = some b.current := by
  obtain ⟨_ | ⟨e, stack⟩, top⟩ := b
  · rfl
  · rw [openNodes_of_open, List.getLast?_concat]
    rfl

/-- The first open node is the whole tree. -/
theorem head?_openNodes (b : Builder) : b.openNodes.head? = some (.fragment b.finish) := by
  induction b using closing_induction with
  | flat top => rfl
  | opened e stack top ih => rw [openNodes_of_open, List.head?_append, ih, finish_of_open]; rfl

theorem children_current_mapChildren (b : Builder) (f : List Node → List Node) :
    ∃ children, (b.mapChildren f).current.children = (f children).reverse := by
  obtain ⟨_ | ⟨e, stack⟩, top⟩ := b <;> exact ⟨_, rfl⟩

/-- What is added becomes the last child. -/
theorem getLast?_children_add (b : Builder) (n : Node) :
    (b.add n).current.children.getLast? = some n := by
  obtain ⟨children, whole⟩ := b.children_current_mapChildren (n :: ·)
  rw [add, whole, List.getLast?_reverse]
  rfl

/-- Each open element is the last child of what it was opened in. -/
theorem isChain_openNodes (b : Builder) : b.openNodes.IsChain fun outer inner =>
    inner.isElement = true ∧ outer.children.getLast? = some inner := by
  induction b using closing_induction with
  | flat top => exact .singleton _
  | opened e stack top ih =>
    rw [openNodes_of_open, List.isChain_append]
    refine ⟨ih, .singleton _, ?_⟩
    intro outer last inner first
    cases first
    rw [getLast?_openNodes] at last
    cases last
    exact ⟨rfl, getLast?_children_add ⟨stack, top⟩ e.close⟩

/-- What an end tag makes of a builder: the innermost open element of the tag is closed with
everything opened inside it; nothing changes if there is none. -/
def ClosesInnermost (tag : String) (b c : Builder) : Prop :=
  (∃ outer e inner, b.openNodes = outer ++ e :: inner ∧ e.tag? = some tag ∧
      (∀ n ∈ inner, n.tag? ≠ some tag) ∧ c.openNodes = outer ∧ c.finish = b.finish) ∨
    (∀ n ∈ b.openNodes, n.tag? ≠ some tag) ∧ c = b

/-- An end tag finds as many elements to close as there are from the innermost of its name on. -/
theorem closedBy?_cases (tag : String) (b : Builder) :
    (∃ count, b.closedBy? tag = some count ∧ ∃ outer e inner, b.openNodes = outer ++ e :: inner ∧
      e.tag? = some tag ∧ (∀ n ∈ inner, n.tag? ≠ some tag) ∧
      (closeMany count b).openNodes = outer ∧ (closeMany count b).finish = b.finish) ∨
    b.closedBy? tag = none ∧ ∀ n ∈ b.openNodes, n.tag? ≠ some tag := by
  induction b using closing_induction with
  | flat top => exact .inr ⟨rfl, by simp [openNodes, openFrom, current, Node.tag?]⟩
  | opened e stack top ih =>
    rw [openNodes_of_open, closedBy?_of_open, finish_of_open]
    by_cases same : e.tag = tag
    · rw [if_pos same]
      exact .inl ⟨1, rfl, _, e.close, [], rfl, congrArg some same, by simp, rfl, rfl⟩
    · rw [if_neg same]
      have other : ∀ n ∈ [e.close], n.tag? ≠ some tag := by
        simpa [OpenElement.close, Node.tag?] using same
      rcases ih with ⟨count, found, outer, n, inner, whole, tagged, others, cut, tree⟩ |
        ⟨missing, others⟩
      · refine .inl ⟨count + 1, by rw [found]; rfl, outer, n, inner ++ [e.close], ?_, tagged,
          List.forall_mem_append.mpr ⟨others, other⟩, cut, tree⟩
        rw [whole, List.append_assoc, List.cons_append]
      · exact .inr ⟨by rw [missing]; rfl, List.forall_mem_append.mpr ⟨others, other⟩⟩

theorem closes_of_endTag (tag : String) (place : Text.Position) (b : Builder) :
    ∃ c, b.take false (.endTag tag place) = .ok c ∧ ClosesInnermost tag b c := by
  rw [take, endTag]
  rcases closedBy?_cases tag b with ⟨count, found, closed⟩ | ⟨missing, others⟩
  · rw [found]
    exact ⟨_, rfl, .inl closed⟩
  · rw [missing]
    exact ⟨b, rfl, .inr ⟨others, rfl⟩⟩

end Markup.Builder
end LiveTemplate
