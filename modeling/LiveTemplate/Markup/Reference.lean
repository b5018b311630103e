import LiveTemplate.Error
import LiveTemplate.Markup.ReferenceTable
import LiveTemplate.Text.Digit

/-! Character references, by number or by name. A number outside the characters becomes the
replacement character, and one of a control or noncharacter nothing. A name is read as far as a
name may go; the longest known name at its beginning counts, and an unknown one stands for
itself. A decimal number with too many digits makes the whole text unreadable. -/
namespace LiveTemplate.Markup

def isHexDigit (c : Char) : Bool :=
  Text.isDigit c || ('a' ≤ c && c ≤ 'f') || ('A' ≤ c && c ≤ 'F')

def digitOf (c : Char) : Nat :=
  if Text.isDigit c then c.toNat - 0x30
  else if c.toNat < 0x61 then c.toNat - 0x37
  else c.toNat - 0x57

def numberIn (base : Nat) (digits : List Char) : Nat :=
  digits.foldl (fun n c => base * n + digitOf c) 0

def replacementCharacter : Char := '\uFFFD'

/-- Controls other than the tab and the line breaks. -/
def isDroppedControl (n : Nat) : Bool :=
  (0x1 ≤ n && n ≤ 0x8) || n == 0xB || (0xE ≤ n && n ≤ 0x1F) || n == 0x7F

def isNoncharacter (n : Nat) : Bool :=
  (0xFDD0 ≤ n && n ≤ 0xFDEF) || n % 0x10000 == 0xFFFE || n % 0x10000 == 0xFFFF

/-- What a number stands for. -/
def characterOf (n : Nat) : List Char :=
  if n = 0 then [replacementCharacter]
  else match controlReplacements.lookup n with
    | some m => [Char.ofNat m]
    | none =>
      if (0xD800 ≤ n && n ≤ 0xDFFF) || 0x10FFFF < n then [replacementCharacter]
      else if isDroppedControl n || isNoncharacter n then []
      else [Char.ofNat n]

def isNameChar (c : Char) : Bool :=
  !(c = '\t' || c = '\n' || c = '\x0C' || c = ' ' || c = '<' || c = '&' || c = '#' || c = ';')

/-- The text of a name that may be followed by other characters. -/
def openName? (name : List Char) : Option (List Char) :=
  (openNames.lookup (String.ofList name)).map fun n => [Char.ofNat n]

/-- The text of a name with a semicolon behind it. -/
def closedName? (name : List Char) : Option (List Char) :=
  match openName? name with
  | some text => some text
  | none => (closedNames.lookup (String.ofList name)).map (·.map Char.ofNat)

/-- The longest known name among the first `length` characters, at least two long, and the
characters behind it. -/
def longestName? (run : List Char) : (length : Nat) → Option (List Char × List Char)
  | 0 => none
  | length + 1 =>
    if length = 0 then none
    else match openName? (run.take (length + 1)) with
      | some text => some (text, run.drop (length + 1))
      | none => longestName? run length

/-- One semicolon, if there is one, and the text behind it. -/
def takeSemicolon : List Char → Bool × List Char
  | ';' :: rest => (true, rest)
  | text => (false, text)

/-- A name is at most this long. -/
def nameLimit : Nat := 32

/-- A reference by name: what the run of name characters becomes, and the text behind it. -/
def namedReference (text : List Char) : List Char × List Char :=
  let run := (text.take nameLimit).takeWhile isNameChar
  let (closed, rest) := takeSemicolon (text.drop run.length)
  if closed then
    match closedName? run with
    | some named => (named, rest)
    | none => match longestName? run run.length with
      | some (named, left) => (named ++ left ++ [';'], rest)
      | none => ('&' :: run ++ [';'], rest)
  else
    match longestName? run run.length with
    | some (named, left) => (named ++ left, rest)
    | none => ('&' :: run, rest)

/-- A reference by number, whose digits stand before `rest`. -/
def numericReference (base : Nat) (digits rest : List Char) : List Char × List Char :=
  (characterOf (numberIn base digits), (takeSemicolon rest).2)

/-- What stands behind an ampersand: the text it makes together with it, and the rest. -/
def reference (text : List Char) : List Char × List Char :=
  match text with
  | '#' :: number =>
    let decimal := number.takeWhile Text.isDigit
    if !decimal.isEmpty then numericReference 10 decimal (number.dropWhile Text.isDigit)
    else match number with
      | x :: behind =>
        let hexadecimal := behind.takeWhile isHexDigit
        if (x = 'x' || x = 'X') && !hexadecimal.isEmpty then
          numericReference 16 hexadecimal (behind.dropWhile isHexDigit)
        else (['&'], text)
      | [] => (['&'], text)
  | text => namedReference text

theorem length_takeSemicolon_le (text : List Char) :
    (takeSemicolon text).2.length ≤ text.length := by
  unfold takeSemicolon; split <;> simp

theorem length_dropWhile_le (p : Char → Bool) (text : List Char) :
    (text.dropWhile p).length ≤ text.length := (List.dropWhile_suffix p).length_le

theorem length_numericReference_le (base : Nat) (digits rest : List Char) :
    (numericReference base digits rest).2.length ≤ rest.length := length_takeSemicolon_le rest

theorem length_namedReference_le (text : List Char) :
    (namedReference text).2.length ≤ text.length := by
  have := length_takeSemicolon_le (text.drop ((text.take nameLimit).takeWhile isNameChar).length)
  simp only [List.length_drop] at this
  unfold namedReference
  dsimp only
  repeat' split
  all_goals dsimp only; omega

theorem length_reference_le (text : List Char) : (reference text).2.length ≤ text.length := by
  unfold reference
  split
  · rename_i number
    have decimal := length_dropWhile_le Text.isDigit number
    dsimp only
    split
    · refine Nat.le_trans (length_numericReference_le _ _ _) ?_
      simp; omega
    · split
      · rename_i x behind _
        have hexadecimal := length_dropWhile_le isHexDigit behind
        split
        · refine Nat.le_trans (length_numericReference_le _ _ _) ?_
          simp; omega
        · simp
      · simp
  · exact length_namedReference_le _

/-- The text with its references resolved, from left to right and not again in the result. -/
def unescape : List Char → List Char
  | [] => []
  | c :: text =>
    if c = '&' then
      have := length_reference_le text
      (reference text).1 ++ unescape (reference text).2
    else c :: unescape text
termination_by text => text.length
decreasing_by all_goals simp; try omega

/-- How many digits the first decimal reference with too many of them has. -/
def oversized? : List Char → Option Nat
  | [] => none
  | c :: text =>
    match c, text with
    | '&', '#' :: number =>
      let digits := (number.takeWhile Text.isDigit).length
      if Numeral.digitLimit < digits then some digits else oversized? text
    | _, _ => oversized? text

/-- The text with its references resolved, if all of them can be read. -/
def resolve (text : List Char) : Except Error (List Char) :=
  match oversized? text with
  | some digits => .error (.numeralTooLong digits)
  | none => .ok (unescape text)

end LiveTemplate.Markup
