import LiveTemplate.Node.Basic

/-! The walk over a tree: its texts and elements, parents before children. `walk` keeps the pending
nodes on a stack; `preorder` is the same by recursion, and `spots` adds each node's path. -/
namespace LiveTemplate

/-- Child indices from the root down; every child counts. -/
abbrev Path := List Nat

namespace Node

/-- Only texts and elements are met. -/
def isWalked : Node → Bool
  | text _ | element .. => true
  | _ => false

/-- The walk goes down into elements and fragments and into nothing else. -/
def entered : Node → List Node
  | element _ _ _ cs | fragment cs => cs
  | _ => []

mutual

/-- How many nodes a tree has. -/
def size : Node → Nat
  | text _ | comment _ | bare => 1
  | element _ _ _ cs | fragment cs | bareParent cs => 1 + sizes cs

def sizes : List Node → Nat
  | [] => 0
  | n :: rest => size n + sizes rest

end

theorem sizes_append (ms ns : List Node) : sizes (ms ++ ns) = sizes ms + sizes ns := by
  induction ms with
  | nil => simp [sizes]
  | cons m ms ih => simp [sizes, ih, Nat.add_assoc]

theorem sizes_entered_lt (n : Node) : sizes n.entered < size n := by
  cases n <;> simp only [entered, sizes, size] <;> omega

/-- The pending nodes are taken from the front, and what is below a node goes before the rest. -/
def walkStack : List Node → List Node
  | [] => []
  | n :: stack =>
    have := sizes_entered_lt n
    if n.isWalked then n :: walkStack (n.entered ++ stack) else walkStack (n.entered ++ stack)
termination_by stack => sizes stack
decreasing_by all_goals simp only [sizes_append, sizes]; omega

def walk (root : Node) : List Node := walkStack [root]

mutual

def preorder : Node → List Node
  | text data => [text data]
  | element tag attributes properties cs => element tag attributes properties cs :: preorders cs
  | fragment cs => preorders cs
  | comment _ | bare | bareParent _ => []

def preorders : List Node → List Node
  | [] => []
  | n :: rest => preorder n ++ preorders rest

end

mutual

/-- Every node of the tree, bare ones and comments too. -/
def allNodes : Node → List Node
  | text data => [text data]
  | comment data => [comment data]
  | element tag attributes properties cs => element tag attributes properties cs :: allNodesOf cs
  | fragment cs => fragment cs :: allNodesOf cs
  | bare => [bare]
  | bareParent cs => bareParent cs :: allNodesOf cs

def allNodesOf : List Node → List Node
  | [] => []
  | n :: rest => allNodes n ++ allNodesOf rest

end

mutual

/-- The walked nodes with their paths; `above` is the path to the node, nearest index first. -/
def spotsAt (above : Path) : Node → List (Path × Node)
  | text data => [(above.reverse, text data)]
  | element tag attributes properties cs =>
    (above.reverse, element tag attributes properties cs) :: spotsFrom above 0 cs
  | fragment cs => spotsFrom above 0 cs
  | comment _ | bare | bareParent _ => []

def spotsFrom (above : Path) (index : Nat) : List Node → List (Path × Node)
  | [] => []
  | n :: rest => spotsAt (index :: above) n ++ spotsFrom above (index + 1) rest

end

def spots (root : Node) : List (Path × Node) := spotsAt [] root

end Node
end LiveTemplate
