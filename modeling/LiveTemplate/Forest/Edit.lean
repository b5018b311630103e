import LiveTemplate.Forest.Basic
import LiveTemplate.Text.Cut

/-! Edits of a forest. A node is taken from its old place before it gets a new one. What an edit did
before it failed stays done. -/
namespace LiveTemplate

/-- The answer of an edit, and the forest afterwards, also if it failed. -/
structure Outcome (α : Type) where
  result : Except Error α
  forest : Forest

namespace Outcome

/-- The next edit is made only if this one succeeded. -/
def andThen {α β : Type} (o : Outcome α) (next : α → Forest → Outcome β) : Outcome β :=
  match o.result with
  | .ok a => next a o.forest
  | .error e => ⟨.error e, o.forest⟩

end Outcome

namespace Forest

/-- Where a node stands among the children of `parent`. -/
def index (parent n : NodeId) (f : Forest) : Except Error Nat :=
  match (f.children parent).idxOf? n with
  | some i => .ok i
  | none => .error .notAChild

def removeChild (parent n : NodeId) (f : Forest) : Outcome Unit :=
  match f.index parent n with
  | .ok i => ⟨.ok (), (f.mapChildren parent (·.eraseIdx i)).setParent n none⟩
  | .error e => ⟨.error e, f⟩

/-- A node without a parent is already detached. -/
def detach (n : NodeId) (f : Forest) : Outcome Unit :=
  match f.parent n with
  | some parent => f.removeChild parent n
  | none => ⟨.ok (), f⟩

/-- The node becomes a child of `parent`, at the place that `place` gives it in the list. -/
def attach (parent n : NodeId) (place : List NodeId → List NodeId) (f : Forest) : Forest :=
  (f.setParent n (some parent)).mapChildren parent place

def append (parent n : NodeId) (f : Forest) : Outcome Unit :=
  (f.detach n).andThen fun _ f => ⟨.ok (), f.attach parent n (· ++ [n])⟩

def appendAll (parent : NodeId) : List NodeId → Forest → Outcome Unit
  | [], f => ⟨.ok (), f⟩
  | n :: rest, f => (f.append parent n).andThen fun _ f => appendAll parent rest f

/-- A position counts from the front, or from the back if it is negative, and is brought within
the list. -/
def clampPosition (position : Int) (length : Nat) : Nat :=
  if position < 0 then (length + position).toNat else min position.toNat length

def insertAt (position : Int) (n : NodeId) (children : List NodeId) : List NodeId :=
  children.insertIdx (clampPosition position children.length) n

/-- Positions lie below this, and not below its negative. -/
def positionLimit : Int := 9223372036854775808

/-- The position counts without the node itself. Whether there can be such a position is found out
last, when the node has its new parent. -/
def insert (parent : NodeId) (position : Int) (n : NodeId) (f : Forest) : Outcome Unit :=
  (f.detach n).andThen fun _ f =>
    if -positionLimit ≤ position ∧ position < positionLimit then
      ⟨.ok (), f.attach parent n (insertAt position n)⟩
    else ⟨.error .positionTooLarge, f.setParent n (some parent)⟩

/-- The reference is looked up after the node was detached. -/
def insertAfter (parent reference n : NodeId) (f : Forest) : Outcome Unit :=
  (f.detach n).andThen fun _ f => match f.index parent reference with
    | .ok i => ⟨.ok (), f.attach parent n (·.insertIdx (i + 1) n)⟩
    | .error e => ⟨.error e, f⟩

/-- A node that was listed at construction gets its parent; it leaves the one it had. -/
def adopt (parent n : NodeId) (f : Forest) : Outcome Unit :=
  let leave : Outcome Unit := match f.parent n with
    | some old => if old = parent then ⟨.ok (), f⟩ else f.removeChild old n
    | none => ⟨.ok (), f⟩
  leave.andThen fun _ f => ⟨.ok (), f.setParent n (some parent)⟩

def adoptAll (parent : NodeId) : List NodeId → Forest → Outcome Unit
  | [], f => ⟨.ok (), f⟩
  | n :: rest, f => (f.adopt parent n).andThen fun _ f => adoptAll parent rest f

/-- A new node with the listed children. -/
def construct (content : Content Value) (children : List NodeId) (f : Forest) : Outcome NodeId :=
  let (n, f) := f.add content
  ((f.mapChildren n fun _ => children).adoptAll n children).andThen fun _ f => ⟨.ok n, f⟩

/-- A text keeps what is before the offset; the new text behind it becomes its next sibling if it
has a parent. -/
def split (n : NodeId) (offset : Int) (f : Forest) : Outcome NodeId :=
  match Text.cut (f.content n).data.toList offset with
  | .error e => ⟨.error e, f⟩
  | .ok (head, tail) =>
    let (new, f) := f.add (.text (String.ofList tail))
    let f := f.mapContent n (·.setText (String.ofList head))
    match f.parent n with
    | some parent => (f.insertAfter parent n new).andThen fun _ f => ⟨.ok new, f⟩
    | none => ⟨.ok new, f⟩

def isClonable : Content Value → Bool
  | .bare | .bareParent => false
  | _ => true

mutual

/-- A copy of a node with copies of all below it, detached. The children are copied first. `fuel`
bounds the depth. -/
def clone : (fuel : Nat) → NodeId → Forest → Outcome NodeId
  | 0, _, f => ⟨.error .notClonable, f⟩
  | fuel + 1, n, f =>
    if isClonable (f.content n) then
      (cloneAll fuel (f.children n) f).andThen fun children g =>
        g.construct (f.content n) children
    else ⟨.error .notClonable, f⟩

def cloneAll : (fuel : Nat) → List NodeId → Forest → Outcome (List NodeId)
  | _, [], f => ⟨.ok [], f⟩
  | fuel, n :: rest, f =>
    (clone fuel n f).andThen fun copy f =>
      (cloneAll fuel rest f).andThen fun copies f => ⟨.ok (copy :: copies), f⟩

end

/-- No node of a forest lies deeper than there are nodes. -/
def depthBound (f : Forest) : Nat := f.cells.size + 1

end Forest
end LiveTemplate
