import LiveTemplate.Node.Edit

/-! Nodes that are edited in place. A node is known by its number; it lists its children and knows
its parent, and the two are kept in step by the edits. Numbers are never used again. -/
namespace LiveTemplate

/-- What a node is apart from its children. -/
inductive Content (π : Type) where
  | text (data : String)
  | comment (data : String)
  | element (tag : String) (attributes : Attributes) (properties : Entries FieldName π)
  | fragment
  | bare
  | bareParent

namespace Content

def type {π : Type} : Content π → NodeType
  | text _ => .text
  | comment _ => .comment
  | element .. => .element
  | fragment => .fragment
  | bare => .bare
  | bareParent => .bareParent

/-- The content with children as a tree. -/
def toNode (children : List Node) : Content Value → Node
  | text data => .text data
  | comment data => .comment data
  | element tag attributes properties => .element tag attributes properties children
  | fragment => .fragment children
  | bare => .bare
  | bareParent => .bareParent children

def attributes {π : Type} : Content π → Attributes
  | element _ attributes _ => attributes
  | _ => []

def mapAttributes {π : Type} (f : Attributes → Attributes) : Content π → Content π
  | element tag attributes properties => element tag (f attributes) properties
  | content => content

def setProperty {π : Type} (name : FieldName) (value : π) : Content π → Content π
  | element tag attributes properties => element tag attributes (properties.set name value)
  | content => content

/-- The characters of a text or comment; no other node has any. -/
def data {π : Type} : Content π → String
  | text data | comment data => data
  | _ => ""

def setText {π : Type} (data : String) : Content π → Content π
  | text _ => text data
  | comment _ => comment data
  | content => content

end Content

abbrev NodeId := Nat

structure Cell where
  content : Content Value
  parent : Option NodeId
  children : List NodeId

structure Forest where
  cells : Array Cell

namespace Forest

def empty : Forest := ⟨#[]⟩

def blankCell : Cell := ⟨.bare, none, []⟩

def cell (f : Forest) (n : NodeId) : Cell := f.cells.getD n blankCell

def content (f : Forest) (n : NodeId) : Content Value := (f.cell n).content

def parent (f : Forest) (n : NodeId) : Option NodeId := (f.cell n).parent

def children (f : Forest) (n : NodeId) : List NodeId := (f.cell n).children

def modifyCell (n : NodeId) (g : Cell → Cell) (f : Forest) : Forest := ⟨f.cells.modify n g⟩

def setParent (n : NodeId) (parent : Option NodeId) : Forest → Forest :=
  modifyCell n fun c => { c with parent := parent }

def mapChildren (n : NodeId) (g : List NodeId → List NodeId) : Forest → Forest :=
  modifyCell n fun c => { c with children := g c.children }

def mapContent (n : NodeId) (g : Content Value → Content Value) : Forest → Forest :=
  modifyCell n fun c => { c with content := g c.content }

/-- A node that belongs to nothing and has no children. -/
def add (content : Content Value) (f : Forest) : NodeId × Forest :=
  (f.cells.size, ⟨f.cells.push ⟨content, none, []⟩⟩)

end Forest
end LiveTemplate
