/-! Hexadecimal digits, in lower case. -/
namespace LiveTemplate.Text

def hexDigit (n : Nat) : Char :=
  Char.ofNat (if n % 16 < 10 then 0x30 + n % 16 else 0x57 + n % 16)

/-- The last `width` digits of `n`, with leading zeros. -/
def hexDigits : (width n : Nat) → List Char
  | 0, _ => []
  | width + 1, n => hexDigits width (n / 16) ++ [hexDigit n]

end LiveTemplate.Text
