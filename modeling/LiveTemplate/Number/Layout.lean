import LiveTemplate.Number.Shortest

/-! The text of a double. A `Layout` holds the decisions that the digits leave open, and
`standard` is the one used for values. -/
namespace LiveTemplate

structure Layout where
  /-- Leading places from here up to `positionalBelow` are written without an exponent. -/
  positionalFrom : Int
  positionalBelow : Int
  /-- An exponent is padded with zeros to this width. -/
  exponentWidth : Nat
  /-- A whole number keeps this fraction when written positionally. -/
  wholeFraction : String
  infinity : String
  undefined : String

namespace Layout

/-- Values are written positionally from `0.0001` to below `10^16`, with at least one place;
otherwise with a signed exponent of at least two digits. -/
def standard : Layout := ⟨-4, 16, 2, ".0", "inf", "nan"⟩

def zeros (n : Nat) : String := String.ofList (List.replicate n '0')

def digitsText (n : Nat) : String := toString n

def padded (width : Nat) (digits : String) : String := zeros (width - digits.length) ++ digits

/-- The digits with the decimal point behind the first `point` of them, padded with zeros where
it lies beyond them. -/
def positional (layout : Layout) (digits : List Char) (point : Int) : String :=
  if point ≤ 0 then "0." ++ zeros (-point).toNat ++ String.ofList digits
  else
    let whole := digits.take point.toNat
    let fraction := digits.drop point.toNat
    String.ofList whole ++ zeros (point.toNat - digits.length) ++
      (if fraction.isEmpty then layout.wholeFraction else "." ++ String.ofList fraction)

def exponential (layout : Layout) (digits : List Char) (leading : Int) : String :=
  let fraction := digits.drop 1
  String.ofList (digits.take 1) ++
    (if fraction.isEmpty then "" else "." ++ String.ofList fraction) ++
    (if leading < 0 then "e-" else "e+") ++
    padded layout.exponentWidth (digitsText leading.natAbs)

def unsigned (layout : Layout) (d : Decimal) : String :=
  let digits := (digitsText d.digits).toList
  let point : Int := digits.length + d.scale
  let leading := point - 1
  if layout.positionalFrom ≤ leading ∧ leading < layout.positionalBelow then
    layout.positional digits point
  else layout.exponential digits leading

def sign (negative : Bool) : String := if negative then "-" else ""

def write (layout : Layout) : Double → String
  | .nan => layout.undefined
  | .infinite negative => sign negative ++ layout.infinity
  | .finite negative mantissa exponent =>
    sign negative ++ layout.unsigned (Decimal.shortest mantissa exponent)

end Layout

/-- The shortest text that reads back to the number. -/
def Double.text (x : Double) : String := Layout.standard.write x

end LiveTemplate
