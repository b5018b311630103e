import LiveTemplate.Function.Host
import LiveTemplate.Value.Display

/-! The stock functions. They take any number of arguments; new lists and tuples get an identity
of their own, and `tick` counts its calls. -/
namespace LiveTemplate

/-- What the stock functions draw on: fresh identities and the calls of `tick` so far. -/
structure Supply where
  nextIdentity : Identity
  ticks : Nat
  deriving Repr

namespace Supply

def start : Supply := ⟨Value.firstIdentity, 0⟩

def fresh (s : Supply) : Identity × Supply :=
  (s.nextIdentity, { s with nextIdentity := s.nextIdentity + 1 })

def newList (items : List Value) (s : Supply) : Value × Supply :=
  (.list s.nextIdentity items, s.fresh.2)

/-- The empty tuple is never new. -/
def newTuple (items : List Value) (s : Supply) : Value × Supply :=
  if items.isEmpty then (.emptyTuple, s) else (.tuple s.nextIdentity items, s.fresh.2)

end Supply

namespace Stock

def names : List String := [
  "list", "tuple", "first", "last", "none", "false", "zero", "empty", "unset", "count", "concat",
  "show", "not", "sum", "boom", "tick"]

/-- Booleans are no integers here. -/
def sum (total : Int) : List Value → Except Error Value
  | [] => .ok (.int total)
  | .scalar _ (.int n) :: rest => sum (total + n) rest
  | _ :: _ => .error (.host (.argument "sum: not an int"))

/-- Of the first argument; a missing one counts as null. -/
def negation (shelf : Shelf) (vs : List Value) : Except Error Value :=
  match (vs.headD .null).truth? shelf with
  | some b => .ok (.bool !b)
  | none => .error .noTruthValue

/-- The functions without effect on the supply. -/
def plain (shelf : Shelf) (name : String) (vs : List Value) : Except Error Value :=
  match name with
  | "first" => .ok (vs.headD .null)
  | "last" => .ok (vs.getLastD .null)
  | "none" => .ok .null
  | "false" => .ok (.bool false)
  | "zero" => .ok (.int 0)
  | "empty" => .ok (.str "")
  | "unset" => .ok .unset
  | "count" => .ok (.int vs.length)
  | "concat" => (vs.mapM (Value.display shelf)).map fun texts => .str (String.join texts)
  | "show" =>
    (vs.mapM (Value.written shelf)).map fun texts => .str (String.intercalate "|" texts)
  | "not" => negation shelf vs
  | "sum" => sum 0 vs
  | "boom" => .error (.host (.value "boom"))
  | name => .error (.unknownName name)

def call (shelf : Shelf) (name : String) (vs : List Value) (s : Supply) :
    Except Error Value × Supply :=
  match name with
  | "list" => let (v, s) := s.newList vs; (.ok v, s)
  | "tuple" => let (v, s) := s.newTuple vs; (.ok v, s)
  | "tick" => (.ok (.int (s.ticks + 1)), { s with ticks := s.ticks + 1 })
  | name => (plain shelf name vs, s)

/-- The stock functions with some shared lists. -/
def host (shelf : Shelf) : Host Supply := ⟨shelf, call shelf⟩

end Stock
end LiveTemplate
