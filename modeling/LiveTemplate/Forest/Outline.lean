import LiveTemplate.Forest.Basic
import LiveTemplate.Markup.Render
import LiveTemplate.Node.Walk

/-! Outlines: trees read out of a forest, with the names that nodes have been given. -/
namespace LiveTemplate

inductive Outline where
  | node (name : Option String) (content : Content Value) (children : List Outline)

namespace Outline

/-- A node without a name is shown by its type. -/
def label : Outline → String
  | node name content _ => name.getD content.type.name

mutual

def toNode : Outline → Node
  | node _ content children => content.toNode (toNodes children)

def toNodes : List Outline → List Node
  | [] => []
  | o :: rest => toNode o :: toNodes rest

end

mutual

/-- The labels of all nodes, parents first. -/
def allLabels : Outline → List String
  | node name content children => name.getD content.type.name :: allLabelsOf children

def allLabelsOf : List Outline → List String
  | [] => []
  | o :: rest => allLabels o ++ allLabelsOf rest

end

mutual

/-- The labels of the walked nodes: texts and elements, below elements and fragments only. -/
def walkLabels : Outline → List String
  | node name content children =>
    match content with
    | .text _ => [name.getD content.type.name]
    | .element .. => name.getD content.type.name :: walkLabelsOf children
    | .fragment => walkLabelsOf children
    | .comment _ | .bare | .bareParent => []

def walkLabelsOf : List Outline → List String
  | [] => []
  | o :: rest => walkLabels o ++ walkLabelsOf rest

end

end Outline

namespace Forest

mutual

/-- The tree below a node; `nameOf` knows the names and `fuel` bounds the depth. -/
def outline (nameOf : NodeId → Option String) (f : Forest) : (fuel : Nat) → NodeId → Outline
  | 0, n => .node (nameOf n) (f.content n) []
  | fuel + 1, n => .node (nameOf n) (f.content n) (outlines nameOf f fuel (f.children n))

def outlines (nameOf : NodeId → Option String) (f : Forest) :
    (fuel : Nat) → List NodeId → List Outline
  | _, [] => []
  | fuel, n :: rest => outline nameOf f fuel n :: outlines nameOf f fuel rest

end

end Forest
end LiveTemplate
