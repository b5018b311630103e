import LiveTemplate.Number.Double

/-! The shortest decimal of a double: the fewest digits that read back to it, and of those the
nearest to it. For each digit count the two grid points around the value are tried. -/
namespace LiveTemplate

/-- The number `digits * 10 ^ scale`. -/
structure Decimal where
  digits : Nat
  scale : Int
  deriving DecidableEq, Repr

namespace Decimal

/-- Trailing zeros move into the scale. -/
def stripped : (fuel : Nat) → Decimal → Decimal
  | 0, d => d
  | fuel + 1, d =>
    if d.digits ≠ 0 ∧ d.digits % 10 = 0 then stripped fuel ⟨d.digits / 10, d.scale + 1⟩ else d

/-- A positive quotient measured in units of `10 ^ scale`, as a quotient. -/
def inUnits (numerator denominator : Nat) (scale : Int) : Nat × Nat :=
  (numerator * Double.power 10 (-scale), denominator * Double.power 10 scale)

/-- The least scale from `scale` on whose power of ten exceeds the quotient. -/
def raiseScale (numerator denominator : Nat) : (fuel : Nat) → Int → Int
  | 0, scale => scale
  | fuel + 1, scale =>
    let (n, d) := inUnits numerator denominator scale
    if n < d then scale else raiseScale numerator denominator fuel (scale + 1)

/-- The place of the leading digit: the quotient is below `10 ^ magnitude`, and no smaller power
of ten exceeds it. The start divides the binary magnitude by a number just above log₂ 10. -/
def magnitude (numerator denominator : Nat) : Int :=
  let binary : Int := (numerator.log2 : Int) - denominator.log2 - 1
  raiseScale numerator denominator 8 (Int.fdiv (binary * 30103) 100000 - 1)

/-- Of the two neighbours on a grid that read back the nearer one; of a tie the even one. -/
def onGrid? (readsBack : Decimal → Bool) (numerator denominator : Nat) (scale : Int) :
    Option Decimal :=
  let (n, d) := inUnits numerator denominator scale
  let below : Decimal := ⟨n / d, scale⟩
  let above : Decimal := ⟨n / d + 1, scale⟩
  let belowNearer := Double.roundQuotient n d == n / d
  match readsBack below, readsBack above with
  | true, true => some (if belowNearer then below else above)
  | true, false => some below
  | false, true => some above
  | false, false => none

/-- The grids are tried from one digit on. -/
def search (readsBack : Decimal → Bool) (numerator denominator : Nat) :
    (tries : Nat) → (scale : Int) → Decimal
  | 0, scale => ⟨Double.roundQuotient (inUnits numerator denominator scale).1
      (inUnits numerator denominator scale).2, scale⟩
  | tries + 1, scale =>
    (onGrid? readsBack numerator denominator scale).getD
      (search readsBack numerator denominator tries (scale - 1))

/-- The shortest decimal of `mantissa * 2 ^ exponent`. Seventeen digits always read back. -/
def shortest (mantissa : Nat) (exponent : Int) : Decimal :=
  if mantissa = 0 then ⟨0, 0⟩
  else
    let numerator := mantissa * Double.power 2 exponent
    let denominator := Double.power 2 (-exponent)
    let readsBack (d : Decimal) :=
      Double.ofDecimal false d.digits d.scale == .finite false mantissa exponent
    stripped 20 (search readsBack numerator denominator 16
      (magnitude numerator denominator - 1))

end Decimal
end LiveTemplate
