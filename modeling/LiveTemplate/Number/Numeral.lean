/-! Decimal numerals of integers. There is a limit to how many digits are written or read. -/
namespace LiveTemplate.Numeral

def digitLimit : Nat := 4300

/-- Below this size in bits a number surely has fewer digits than the limit. -/
def safeBits : Nat := 3 * digitLimit

/-- Whether the digits of a number are few enough to be written. -/
def fits (n : Int) : Bool :=
  n.natAbs.log2 < safeBits || n.natAbs < Nat.pow 10 digitLimit

end LiveTemplate.Numeral
