import LiveTemplate.Value.Basic
import LiveTemplate.Number.Compare

/-! Equality of values, and the two comparisons that decide whether a value counts as changed.
Inside containers, elements are equal if they are the same object or equal values; booleans,
integers and doubles are compared as numbers. -/
namespace LiveTemplate

namespace Value

def quantity? : Value → Option Quantity
  | bool b => some (.ofInt (if b then 1 else 0))
  | scalar _ (.int n) => some (.ofInt n)
  | scalar _ (.float x) => some (.ofDouble x)
  | _ => none

/-- Equality of values that hold no others. -/
def equalPlain (v w : Value) : Bool :=
  match v.quantity?, w.quantity? with
  | some a, some b => a.equals b
  | none, none => match v, w with
    | scalar _ (.str s), scalar _ (.str t) => s == t
    | _, _ => v.same w
  | _, _ => false

/-- Two lists of one length whose items agree in pairs. -/
def allPairs {α : Type} (agree : α → α → Bool) : List α → List α → Bool
  | [], [] => true
  | a :: as, b :: bs => agree a b && allPairs agree as bs
  | _, _ => false

/-- Dictionaries of one size where each key is found on the other side, with an agreeing value under
it. -/
def sameEntries {α : Type} (agree : α → α → Bool) (entries others : List (α × α)) : Bool :=
  entries.length == others.length && entries.all fun (key, a) =>
    match others.find? fun (other, _) => agree other key with
    | some (_, b) => agree a b
    | none => false

/-- Equality below the level of objects: lists with lists and tuples with tuples element by
element, dictionaries by their keys and the values under them. Values nested deeper than
`depth` are not found equal. -/
def equalWithin (shelf : Shelf) : (depth : Nat) → Value → Value → Bool
  | 0, _, _ => false
  | depth + 1, v, w =>
    let agree (a b : Value) : Bool := same a b || equalWithin shelf depth a b
    match v, w with
    | tuple _ items, tuple _ others => allPairs agree items others
    | dictionary _ entries, dictionary _ others => sameEntries agree entries others
    | v, w => match v.listItems? shelf, w.listItems? shelf with
      | some items, some others => allPairs agree items others
      | _, _ => equalPlain v w

def equal (shelf : Shelf) (v w : Value) : Bool := equalWithin shelf nestingLimit v w

/-- The direct question whether `v` is unequal to `w`; a host object on the left answers itself, and
a question without an answer counts as yes. -/
def unequal (shelf : Shelf) : Value → Value → Bool
  | object i o, w => match o.inequality with
    | .byIdentity => !same (object i o) w
    | .never => false
    | .always | .undecided => true
  | v, w => !equal shelf v w

/-- Whether `value` counts as a change from `previous`: never if it is the same object, always
if the types differ, otherwise if it is unequal. -/
def differs (shelf : Shelf) (value previous : Value) : Bool :=
  if same value previous then false
  else if value.typeName ≠ previous.typeName then true
  else unequal shelf value previous

/-- Whether `value` is another object than `previous`, equal or not. -/
def replaced (value previous : Value) : Bool := !same value previous

theorem differs_of_same (shelf : Shelf) {v w : Value} (h : same v w = true) :
    differs shelf v w = false := by
  simp [differs, h]

@[simp] theorem differs_self (shelf : Shelf) (v : Value) : differs shelf v v = false :=
  differs_of_same shelf (same_self v)

@[simp] theorem replaced_self (v : Value) : replaced v v = false := by simp [replaced]

end Value

/-- How a binding compares a value with the one before it. -/
inductive Comparison where
  | byValue
  | byIdentity
  deriving DecidableEq, Repr

def Comparison.changed (shelf : Shelf) : Comparison → Value → Value → Bool
  | .byValue => Value.differs shelf
  | .byIdentity => Value.replaced

theorem Comparison.changed_of_same (shelf : Shelf) (how : Comparison) {v w : Value}
    (h : v.same w = true) : how.changed shelf v w = false := by
  cases how <;> simp [Comparison.changed, Value.differs_of_same, Value.replaced, h]

@[simp] theorem Comparison.changed_self (shelf : Shelf) (how : Comparison) (v : Value) :
    how.changed shelf v v = false := how.changed_of_same shelf (Value.same_self v)

end LiveTemplate
