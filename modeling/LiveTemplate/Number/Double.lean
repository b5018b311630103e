/-! Double-precision numbers as exact values. A finite one is a signed `mantissa * 2 ^ exponent`
with at most 53 bits; `ofRatio` rounds a quotient to the nearest of them, a half to the even
mantissa, so each value has one form. Signed zeros and one NaN complete them. -/
namespace LiveTemplate

inductive Double where
  | nan
  | infinite (negative : Bool)
  | finite (negative : Bool) (mantissa : Nat) (exponent : Int)
  deriving DecidableEq, Repr

namespace Double

def mantissaBits : Nat := 53

/-- Mantissas lie below `2 ^ mantissaBits`. -/
def mantissaLimit : Nat := 9007199254740992

def leastExponent : Int := -1074
def greatestExponent : Int := 971

def zero (negative : Bool) : Double := finite negative 0 leastExponent

/-- A positive power, and one for any other exponent, so that `base ^ e` is the quotient of
`power base e` by `power base (-e)`. -/
def power (base : Nat) (exponent : Int) : Nat := Nat.pow base exponent.toNat

/-- The nearest natural number to a quotient; a half goes to the even neighbour. -/
def roundQuotient (numerator denominator : Nat) : Nat :=
  let quotient := numerator / denominator
  let twice := 2 * (numerator % denominator)
  if twice < denominator then quotient
  else if denominator < twice then quotient + 1
  else quotient + quotient % 2

/-- The quotient measured in units of `2 ^ exponent`, rounded. -/
def roundAt (numerator denominator : Nat) (exponent : Int) : Nat :=
  roundQuotient (numerator * power 2 (-exponent)) (denominator * power 2 exponent)

/-- The exponent whose unit leaves 53 bits of the quotient, or one bit more or less. -/
def roughExponent (numerator denominator : Nat) : Int :=
  (numerator.log2 : Int) - denominator.log2 - mantissaBits

/-- The exponent is raised until the rounded mantissa fits. -/
def fit (negative : Bool) (numerator denominator : Nat) : (tries : Nat) → Int → Double
  | 0, _ => infinite negative
  | tries + 1, exponent =>
    let mantissa := roundAt numerator denominator exponent
    if mantissa < mantissaLimit then
      if exponent ≤ greatestExponent then finite negative mantissa exponent else infinite negative
    else fit negative numerator denominator tries (exponent + 1)

/-- The nearest number to `numerator / denominator`, infinite beyond the range. -/
def ofRatio (negative : Bool) (numerator denominator : Nat) : Double :=
  if numerator = 0 then zero negative
  else fit negative numerator denominator 4
    (max leastExponent (roughExponent numerator denominator))

/-- The nearest number to `digits * 10 ^ scale`. Scales far outside the range are settled first,
so that no huge power is formed. -/
def ofDecimal (negative : Bool) (digits : Nat) (scale : Int) : Double :=
  if digits = 0 then zero negative
  else if 400 < scale then infinite negative
  else if scale + digits.log2 < -400 then zero negative
  else ofRatio negative (digits * power 10 scale) (power 10 (-scale))

/-- Both zeros, and nothing else. -/
def isZero : Double → Bool
  | finite _ mantissa _ => mantissa == 0
  | _ => false

end Double
end LiveTemplate
