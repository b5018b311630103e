import LiveTemplate.Node.Walk

/-! Edits of single nodes. An edit that does not fit the node it meets leaves it alone. -/
namespace LiveTemplate

namespace Attributes

/-- With `on` the attribute is present afterwards, and one that is there keeps its value; without,
it is absent. -/
def force (name : FieldName) (on : Bool) (attributes : Attributes) : Attributes :=
  if on then attributes.setIfAbsent name none else attributes.erase name

/-- Without a decision the attribute changes from absent to present or back. The answer says whether
it is present afterwards. -/
def toggle (name : FieldName) (decision : Option Bool) (attributes : Attributes) :
    Bool × Attributes :=
  let on := decision.getD (!attributes.has name)
  (on, attributes.force name on)

end Attributes

inductive Edit where
  | setText (data : String)
  | setAttribute (name : FieldName) (value : String)
  | toggleAttribute (name : FieldName) (on : Bool)
  | setProperty (name : FieldName) (value : Value)

namespace Edit

/-- The data of texts and comments can be set, and all else belongs to elements. -/
def fits : Edit → NodeType → Bool
  | setText _, type => type.hasData
  | _, type => type = .element

/-- What a node must have for the edit to fit. -/
def member : Edit → String
  | setText _ => "data"
  | setAttribute .. => "set_attribute"
  | toggleAttribute .. => "toggle_attribute"
  | setProperty .. => "properties"

def apply : Edit → Node → Node
  | setText data, .text _ => .text data
  | setText data, .comment _ => .comment data
  | setAttribute name value, .element tag attributes properties cs =>
    .element tag (attributes.set name (some value)) properties cs
  | toggleAttribute name on, .element tag attributes properties cs =>
    .element tag (attributes.force name on) properties cs
  | setProperty name value, .element tag attributes properties cs =>
    .element tag attributes (properties.set name value) cs
  | _, n => n

end Edit

namespace Node

def mapChildren (f : List Node → List Node) : Node → Node
  | element tag attributes properties cs => element tag attributes properties (f cs)
  | fragment cs => fragment (f cs)
  | bareParent cs => bareParent (f cs)
  | n => n

/-- The tree with the node at a path changed; a path that leads nowhere changes nothing. -/
def modifyAt (f : Node → Node) : Path → Node → Node
  | [], n => f n
  | index :: path, n => n.mapChildren fun cs => cs.modify index (modifyAt f path)

def editAt (path : Path) (edit : Edit) (root : Node) : Node := modifyAt edit.apply path root

end Node
end LiveTemplate
