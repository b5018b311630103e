import LiveTemplate.Forest.Edit
import LiveTemplate.Node.Basic
import LiveTemplate.Script.Objects

/-! Written trees. A node may be named, and the name of a node that exists may stand for it. -/
namespace LiveTemplate

inductive Draft where
  | node (name : Option String) (content : Content Literal) (children : List Draft)
  | named (name : String)

/-- Properties in order; of several of one name the last counts, at the first one's place. -/
def Objects.evaluateProperties (properties : List (FieldName × Literal)) (o : Objects) :
    Except Error (Properties × Objects) :=
  properties.foldlM (fun (kept, o) (name, l) => do
    let (v, o) ← o.evaluate l
    return (Entries.set name v kept, o)) ([], o)

def Content.evaluate (o : Objects) : Content Literal → Except Error (Content Value × Objects)
  | .text data => .ok (.text data, o)
  | .comment data => .ok (.comment data, o)
  | .element tag attributes properties =>
    (o.evaluateProperties properties).map fun (values, o) =>
      (.element tag (Entries.ofList attributes) values, o)
  | .fragment => .ok (.fragment, o)
  | .bare => .ok (.bare, o)
  | .bareParent => .ok (.bareParent, o)

namespace Draft

mutual

/-- The tree without names; a name that stands for a node stands for nothing here. An element's
properties are evaluated before what is below it. -/
def toNode : Draft → Objects → Except Error (Node × Objects)
  | node _ content children, o => do
    let (content, o) ← content.evaluate o
    let (children, o) ← toNodes children o
    return (content.toNode children, o)
  | named _, o => .ok (.bare, o)

def toNodes : List Draft → Objects → Except Error (List Node × Objects)
  | [], o => .ok ([], o)
  | d :: rest, o => do
    let (n, o) ← toNode d o
    let (ns, o) ← toNodes rest o
    return (n :: ns, o)

end

end Draft
end LiveTemplate
