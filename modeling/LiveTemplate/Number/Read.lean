import LiveTemplate.Number.Double
import LiveTemplate.Text.Blank
import LiveTemplate.Text.Digit

/-! Reading a double from decimal text: an optional sign, then digits with at most one point and
an optional exponent, or the name of an infinity or of the undefined number. Digits may be of any
script, blanks may surround the number, and single underscores may stand between digits. -/
namespace LiveTemplate.Double

/-- The four separators before the space are no blanks around a number. -/
def isMargin (c : Char) : Bool := Text.isBlank c && !(0x1C ≤ c.toNat && c.toNat ≤ 0x1F)

def withoutMargins (cs : List Char) : List Char :=
  ((cs.dropWhile isMargin).reverse.dropWhile isMargin).reverse

/-- A digit of any script as a plain one. -/
def plainDigit (c : Char) : Char :=
  match Text.digitValue? c with
  | some value => Char.ofNat ('0'.toNat + value)
  | none => c

/-- The text without the underscores between its digits; an underscore elsewhere spoils it. -/
def joinDigits? : List Char → Option (List Char)
  | [] => some []
  | c :: '_' :: d :: rest =>
    if Text.isDigit c && Text.isDigit d then (joinDigits? (d :: rest)).map (c :: ·) else none
  | c :: rest => if c = '_' then none else (joinDigits? rest).map (c :: ·)

def digitValue (c : Char) : Nat := c.toNat - '0'.toNat

def digitsValue (cs : List Char) : Nat := cs.foldl (fun n c => 10 * n + digitValue c) 0

/-- The sign, true for a minus, and what follows it. -/
def takeSign : List Char → Bool × List Char
  | '-' :: rest => (true, rest)
  | '+' :: rest => (false, rest)
  | cs => (false, cs)

/-- A whole number with an optional sign, to the end of the text. -/
def readExponent? (cs : List Char) : Option Int :=
  let (negative, digits) := takeSign cs
  if digits.isEmpty || !digits.all Text.isDigit then none
  else
    let size : Int := digitsValue digits
    some (if negative then -size else size)

/-- What follows the mantissa. -/
def readScale? : List Char → Option Int
  | [] => some 0
  | c :: rest => if c = 'e' || c = 'E' then readExponent? rest else none

def readUnsigned? (negative : Bool) (cs : List Char) : Option Double :=
  let whole := cs.takeWhile Text.isDigit
  let behind := cs.dropWhile Text.isDigit
  let (fraction, rest) := match behind with
    | '.' :: behind => (behind.takeWhile Text.isDigit, behind.dropWhile Text.isDigit)
    | _ => ([], behind)
  if whole.isEmpty && fraction.isEmpty then none
  else (readScale? rest).map fun scale =>
    ofDecimal negative (digitsValue (whole ++ fraction)) (scale - fraction.length)

/-- A sign, and a number or name behind it. -/
def readSigned? (cs : List Char) : Option Double :=
  let (negative, cs) := takeSign cs
  let word := String.ofList (cs.map Char.toLower)
  if word = "nan" then some nan
  else if word = "inf" || word = "infinity" then some (infinite negative)
  else readUnsigned? negative cs

def ofText? (text : String) : Option Double :=
  (joinDigits? ((withoutMargins text.toList).map plainDigit)).bind readSigned?

end LiveTemplate.Double
