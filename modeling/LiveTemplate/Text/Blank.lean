/-! White space and the cuts it allows. A blank is any character of the Unicode white
space set, together with the four separators U+001C to U+001F; a zero-width space and
a byte order mark are not blank. -/
namespace LiveTemplate.Text

def isBlank (c : Char) : Bool :=
  let n := c.toNat
  (0x09 ≤ n && n ≤ 0x0D) || (0x1C ≤ n && n ≤ 0x20) || n == 0x85 || n == 0xA0 || n == 0x1680 ||
  (0x2000 ≤ n && n ≤ 0x200A) || n == 0x2028 || n == 0x2029 || n == 0x202F || n == 0x205F ||
  n == 0x3000

def trimStart (cs : List Char) : List Char := cs.dropWhile isBlank

def trimEnd (cs : List Char) : List Char := (cs.reverse.dropWhile isBlank).reverse

/-- Blanks are removed at both ends and kept inside. -/
def trim (cs : List Char) : List Char := trimEnd (trimStart cs)

def allBlank (cs : List Char) : Bool := cs.all isBlank

/-- The pieces between separators; there is always one more piece than separators. -/
def splitOn (separator : Char) : List Char → List (List Char)
  | [] => [[]]
  | c :: rest =>
    if c = separator then [] :: splitOn separator rest
    else match splitOn separator rest with
      | [] => [[c]]
      | piece :: pieces => (c :: piece) :: pieces

/-- A text that begins with `head` is taken apart behind it. -/
def stripHead? : (head text : List Char) → Option (List Char)
  | [], text => some text
  | _ :: _, [] => none
  | h :: head, c :: text => if h = c then stripHead? head text else none

theorem stripHead?_eq_some_iff {head text rest : List Char} :
    stripHead? head text = some rest ↔ text = head ++ rest := by
  induction head generalizing text with
  | nil => simp [stripHead?, eq_comm]
  | cons h head ih =>
    cases text with
    | nil => simp [stripHead?]
    | cons c text =>
      by_cases same : h = c
      · simp [stripHead?, same, ih]
      · simp [stripHead?, same, Ne.symm same]

theorem stripHead?_append (head rest : List Char) : stripHead? head (head ++ rest) = some rest :=
  stripHead?_eq_some_iff.2 rfl

end LiveTemplate.Text
