/-! Sets of characters, given as ranges of code points in ascending order. -/
namespace LiveTemplate.Text

/-- The first and the last code point. -/
abbrev CharRange := Nat × Nat

def inRanges : List CharRange → Char → Bool
  | [], _ => false
  | (low, high) :: rest, c =>
    if c.toNat < low then false else c.toNat ≤ high || inRanges rest c

end LiveTemplate.Text
