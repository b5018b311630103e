import LiveTemplate.Entries
import LiveTemplate.Function.Stock
import LiveTemplate.Number.Read

/-! Written values. Each time a list, tuple, dictionary, host object or fresh undefined number is
written, evaluating it makes a new object; the objects of the pool are shared by name. -/
namespace LiveTemplate

inductive Literal where
  | null
  | unset
  | bool (b : Bool)
  | int (n : Int)
  | float (text : String)
  | freshNaN
  | str (s : String)
  | list (items : List Literal)
  | tuple (items : List Literal)
  | dictionary (entries : List (String × Literal))
  | function (name : String)
  | object (o : HostObject)
  | shared (name : String)

/-- The shared objects by name. -/
abbrev Pool := Entries String Value

namespace Pool

/-- A name must be one of the pool's. -/
def get (name : String) (pool : Pool) : Except Error Value :=
  match Entries.find? name pool with
  | some v => .ok v
  | none => .error (.unknownName name)

/-- Shared lists, dictionaries and host objects are known by their names. -/
def isTracked : Value → Bool
  | .sharedList _ | .dictionary .. | .object .. => true
  | _ => false

/-- The name of a pool object. -/
def nameOf? (v : Value) (pool : Pool) : Option String :=
  if isTracked v then (List.find? (fun entry => v.same entry.2) pool).map (·.1) else none

end Pool

namespace Literal

mutual

def evaluate (pool : Pool) : Literal → Supply → Except Error (Value × Supply)
  | null, s => .ok (.null, s)
  | unset, s => .ok (.unset, s)
  | bool b, s => .ok (.bool b, s)
  | int n, s => .ok (.int n, s)
  | float text, s => match Double.ofText? text with
    | some x => .ok (.float x, s)
    | none => .error (.notANumber text)
  | freshNaN, s => let (i, s) := s.fresh; .ok (.scalar (some i) (.float .nan), s)
  | str text, s => .ok (.str text, s)
  | list items, s => (evaluateAll pool items s).map fun (vs, s) => s.newList vs
  | tuple items, s => (evaluateAll pool items s).map fun (vs, s) => s.newTuple vs
  | dictionary entries, s => (evaluateEntries pool entries s).map fun (vs, s) =>
    let (i, s) := s.fresh
    (.dictionary i ((Entries.ofList vs).map (Prod.map .str id)), s)
  | function name, s =>
    if Stock.names.contains name then .ok (.function name, s) else .error (.unknownName name)
  | object o, s => let (i, s) := s.fresh; .ok (.object i o, s)
  | shared name, s => (pool.get name).map fun v => (v, s)

def evaluateAll (pool : Pool) : List Literal → Supply → Except Error (List Value × Supply)
  | [], s => .ok ([], s)
  | l :: rest, s => do
    let (v, s) ← evaluate pool l s
    let (vs, s) ← evaluateAll pool rest s
    return (v :: vs, s)

def evaluateEntries (pool : Pool) :
    List (String × Literal) → Supply → Except Error (List (String × Value) × Supply)
  | [], s => .ok ([], s)
  | (key, l) :: rest, s => do
    let (v, s) ← evaluate pool l s
    let (vs, s) ← evaluateEntries pool rest s
    return ((key, v) :: vs, s)

end

end Literal

/-- A context as written. -/
abbrev WrittenContext := List (String × Literal)

end LiveTemplate
