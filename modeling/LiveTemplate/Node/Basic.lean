import LiveTemplate.Entries
import LiveTemplate.Error
import LiveTemplate.Value.Basic

/-! Trees of text, comments, elements and fragments. A fragment groups nodes without a tag of its
own. A bare node or bare parent has no kind: it cannot be copied, and nothing in it is shown.

Whatever goes through a tree reaches its end, however deep the tree is: the depth at which an
interpreter gives up is taken to be out of reach. Only for values, which may hold themselves, is
there a limit. -/
namespace LiveTemplate

/-- What an attribute or property is known by. A binding that names no target has the nameless one
as its target. -/
abbrev FieldName := Option String

/-- An attribute without a value is present as a name alone. -/
abbrev Attributes := Entries FieldName (Option String)

/-- Fields of the host's object behind an element. -/
abbrev Properties := Entries FieldName Value

inductive NodeType where
  | text
  | comment
  | element
  | fragment
  | bare
  | bareParent
  deriving DecidableEq, Repr

namespace NodeType

def name : NodeType → String
  | text => "Text"
  | comment => "Comment"
  | element => "Element"
  | fragment => "Fragment"
  | bare => "Node"
  | bareParent => "ParentNode"

def hasChildren : NodeType → Bool
  | element | fragment | bareParent => true
  | text | comment | bare => false

def hasData : NodeType → Bool
  | text | comment => true
  | _ => false

end NodeType

inductive Node where
  | text (data : String)
  | comment (data : String)
  | element (tag : String) (attributes : Attributes) (properties : Properties)
      (children : List Node)
  | fragment (children : List Node)
  | bare
  | bareParent (children : List Node)

namespace Node

def type : Node → NodeType
  | text _ => .text
  | comment _ => .comment
  | element .. => .element
  | fragment _ => .fragment
  | bare => .bare
  | bareParent _ => .bareParent

def children : Node → List Node
  | element _ _ _ cs | fragment cs | bareParent cs => cs
  | text _ | comment _ | bare => []

def isText : Node → Bool
  | text _ => true
  | _ => false

def isElement : Node → Bool
  | element .. => true
  | _ => false

/-- Templates are made of fragments and elements. -/
def isRoot : Node → Bool
  | element .. | fragment _ => true
  | _ => false

mutual

/-- All text in the node, without comments. -/
def textContent : Node → String
  | text data => data
  | element _ _ _ cs | fragment cs | bareParent cs => textContents cs
  | comment _ | bare => ""

def textContents : List Node → String
  | [] => ""
  | n :: rest => textContent n ++ textContents rest

end

mutual

/-- No bare node and no bare parent occurs in the node. -/
def isClonable : Node → Bool
  | text _ | comment _ => true
  | element _ _ _ cs | fragment cs => areClonable cs
  | bare | bareParent _ => false

def areClonable : List Node → Bool
  | [] => true
  | n :: rest => isClonable n && areClonable rest

end

/-- Trees are values, so a copy is the tree itself; what can fail is that there is one. -/
def clone (n : Node) : Except Error Node := if n.isClonable then .ok n else .error .notClonable

/-- An element with `depth` others one in another below it. -/
def chain (tag : String) : (depth : Nat) → Node
  | 0 => element tag [] [] []
  | depth + 1 => element tag [] [] [chain tag depth]

end Node
end LiveTemplate
