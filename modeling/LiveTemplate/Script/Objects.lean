import LiveTemplate.Expression.Evaluator
import LiveTemplate.Script.Literal

/-! The objects that a script shares by name. The lists among them stand on the shelf, so that a
list that grows does so for all that hold it. -/
namespace LiveTemplate

/-- The shared objects, the items of the shared lists, and the supply for new objects. -/
structure Objects where
  pool : Pool
  shelf : Shelf
  supply : Supply

namespace Objects

def start : Objects := ⟨[], #[], .start⟩

/-- The stock functions as they see the shared lists. -/
def host (o : Objects) : Host Supply := Stock.host o.shelf

def evaluate (l : Literal) (o : Objects) : Except Error (Value × Objects) := do
  let (v, supply) ← l.evaluate o.pool o.supply
  return (v, { o with supply := supply })

def evaluateContext (context : WrittenContext) (o : Objects) : Except Error (Patch × Objects) := do
  let (values, supply) ← Literal.evaluateEntries o.pool context o.supply
  return (Entries.ofList values, { o with supply := supply })

/-- A context that is not given stays not given. -/
def evaluateContext? (context : Option WrittenContext) (o : Objects) :
    Except Error (Option Patch × Objects) :=
  match context with
  | some context => (o.evaluateContext context).map fun (patch, o) => (some patch, o)
  | none => .ok (none, o)

/-- A pool list becomes a shared list. -/
def define (name : String) (l : Literal) (o : Objects) : Except Error Objects :=
  match l with
  | .list items => do
    let (items, supply) ← Literal.evaluateAll o.pool items o.supply
    let (v, shelf) := o.shelf.add items
    return ⟨o.pool.set name v, shelf, supply⟩
  | l => do
    let (v, o) ← o.evaluate l
    return { o with pool := o.pool.set name v }

/-- A later entry can share the objects of earlier ones. -/
def ofPool (entries : List (String × Literal)) : Except Error Objects :=
  entries.foldlM (fun o (name, l) => o.define name l) start

/-- A pool list gets one more item; other objects cannot be appended to. -/
def append (name : String) (item : Literal) (o : Objects) : Except Error Objects := do
  match ← o.pool.get name with
  | .sharedList place =>
    let (item, o) ← o.evaluate item
    return { o with shelf := o.shelf.append place item }
  | v => throw (.missingMember v.typeName "append")

end Objects

/-- Something that is shown, with the shared lists as they stood then. -/
structure Shown (α : Type) where
  subject : α
  shelf : Shelf

end LiveTemplate
