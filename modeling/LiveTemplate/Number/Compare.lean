import LiveTemplate.Number.Double

/-! Exact comparison of integers and doubles. Both are read as the same kind of quantity, so
no conversion rounds; a NaN equals nothing. -/
namespace LiveTemplate

/-- What a number stands for: `numerator / 2 ^ shift`, an infinity, or nothing at all. -/
inductive Quantity where
  | undefined
  | infinite (negative : Bool)
  | dyadic (numerator : Int) (shift : Nat)

namespace Quantity

def ofInt (n : Int) : Quantity := dyadic n 0

def ofDouble : Double → Quantity
  | .nan => undefined
  | .infinite negative => infinite negative
  | .finite negative mantissa exponent =>
    let size : Int := (mantissa * Double.power 2 exponent : Nat)
    dyadic (if negative then -size else size) (-exponent).toNat

/-- Equality of quantities by cross-multiplication. -/
def equals : Quantity → Quantity → Bool
  | infinite a, infinite b => a == b
  | dyadic n s, dyadic m t => n * (Nat.pow 2 t : Nat) == m * (Nat.pow 2 s : Nat)
  | _, _ => false

theorem equals_comm (a b : Quantity) : a.equals b = b.equals a := by
  cases a <;> cases b <;> simp [equals, Bool.beq_comm]

end Quantity
end LiveTemplate
