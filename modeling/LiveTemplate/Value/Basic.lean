import LiveTemplate.Number.Double

/-! The values that contexts hold and functions return. A list, tuple, dictionary or host object
carries its identity, so that equal objects can still be different ones. A string or number may
carry one too: without it, it is the one object that all who write that string or number share.
Every other value is the same object as any value equal to it. Only shared lists can grow. -/
namespace LiveTemplate

/-- Two objects are the same one exactly if their identities agree. -/
abbrev Identity := Nat

/-- What a host object answers when it is tested for truth. -/
inductive TruthTest where
  | holds
  | fails
  | refuses
  deriving DecidableEq, Repr

/-- What a host object answers when it is asked whether it differs from another. -/
inductive Inequality where
  | byIdentity
  | never
  | always
  /-- The question fails, or its answer cannot be tested for truth. -/
  | undecided
  deriving DecidableEq, Repr

structure HostObject where
  label : String
  truth : TruthTest
  inequality : Inequality
  deriving DecidableEq, Repr

/-- A number or a string, whichever object it is. -/
inductive Scalar where
  | int (n : Int)
  | float (x : Double)
  | str (s : String)
  deriving DecidableEq, Repr

namespace Scalar

def typeName : Scalar → String
  | int _ => "int"
  | float _ => "float"
  | str _ => "str"

theorem typeName_ne {name : String} (other : name ∉ ["int", "float", "str"]) (s : Scalar) :
    s.typeName ≠ name := by
  rintro rfl
  cases s <;> simp [typeName] at other

@[simp] theorem typeName_ne_unset (s : Scalar) : s.typeName ≠ "_Unset" :=
  typeName_ne (by decide) s

/-- Zero and the empty string are false, an undefined number is true. -/
def truth : Scalar → Bool
  | int n => n != 0
  | float x => !x.isZero
  | str s => !s.isEmpty

end Scalar

inductive Value where
  | null
  /-- Marks that there is no value; different from every value of an application. -/
  | unset
  | bool (b : Bool)
  /-- An object of its own if it has an identity, else the one that all share. -/
  | scalar (id : Option Identity) (s : Scalar)
  | list (id : Identity) (items : List Value)
  /-- A list whose items stand at a place of the shelf. -/
  | sharedList (place : Nat)
  | tuple (id : Identity) (items : List Value)
  /-- Keys are values that cannot change, none of them equal to another. -/
  | dictionary (id : Identity) (entries : List (Value × Value))
  | function (name : String)
  | object (id : Identity) (object : HostObject)

/-- The items of the shared lists. A value refers to a shared list by its place, so all that hold
the list see it grow, and a list may come to hold itself. -/
abbrev Shelf := Array (List Value)

namespace Shelf

def items (shelf : Shelf) (place : Nat) : List Value := shelf.getD place []

/-- A new shared list at the end of the shelf. -/
def add (items : List Value) (shelf : Shelf) : Value × Shelf :=
  (.sharedList shelf.size, shelf.push items)

def append (place : Nat) (item : Value) (shelf : Shelf) : Shelf :=
  shelf.modify place (· ++ [item])

end Shelf

namespace Value

@[match_pattern] abbrev int (n : Int) : Value := scalar none (.int n)

@[match_pattern] abbrev float (x : Double) : Value := scalar none (.float x)

@[match_pattern] abbrev str (s : String) : Value := scalar none (.str s)

/-- All empty tuples are one object. -/
def emptyTuple : Value := tuple 0 []

/-- The least identity that no written or computed object shares with the empty tuple. -/
def firstIdentity : Identity := 1

def typeName : Value → String
  | null => "NoneType"
  | unset => "_Unset"
  | bool _ => "bool"
  | scalar _ s => s.typeName
  | list _ _ | sharedList _ => "list"
  | tuple _ _ => "tuple"
  | dictionary _ _ => "dict"
  | function _ => "Fn"
  | object _ _ => "Obj"

/-- The very same object. -/
def same : Value → Value → Bool
  | null, null | unset, unset => true
  | bool a, bool b => a == b
  | scalar i a, scalar j b => i == j && a == b
  | list i _, list j _ => i == j
  | sharedList p, sharedList q => p == q
  | tuple i _, tuple j _ => i == j
  | dictionary i _, dictionary j _ => i == j
  | function a, function b => a == b
  | object i _, object j _ => i == j
  | _, _ => false

@[simp] theorem same_self (v : Value) : same v v = true := by
  cases v <;> simp [same]

theorem same_comm (v w : Value) : same v w = same w v := by
  cases v <;> cases w <;> simp [same, Bool.beq_comm]

theorem same_trans {u v w : Value} (left : same u v = true) (right : same v w = true) :
    same u w = true := by
  cases u <;> cases v <;> first | (cases left; done) | (cases w <;> simp_all [same])

theorem typeName_of_same {v w : Value} (h : same v w = true) : typeName v = typeName w := by
  cases v <;> cases w <;> simp_all [same, typeName]

/-- The items of a list, shared or not. -/
def listItems? (shelf : Shelf) : Value → Option (List Value)
  | list _ items => some items
  | sharedList place => some (shelf.items place)
  | _ => none

/-- The answer to a truth test; `none` if the value refuses it. Empty and zero values and the
marker for no value are false. -/
def truth? (shelf : Shelf) : Value → Option Bool
  | null | unset => some false
  | bool b => some b
  | scalar _ s => some s.truth
  | function _ => some true
  | list _ items | tuple _ items => some (!items.isEmpty)
  | sharedList place => some (!(shelf.items place).isEmpty)
  | dictionary _ entries => some (!entries.isEmpty)
  | object _ o => match o.truth with
    | .holds => some true
    | .fails => some false
    | .refuses => none

/-- Containers nested deeper than this are neither compared nor written. -/
def nestingLimit : Nat := 980

end Value
end LiveTemplate
