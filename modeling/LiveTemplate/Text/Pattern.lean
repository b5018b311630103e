import LiveTemplate.Text.Blank

/-! Patterns that are matched by trying. A piece of a pattern takes characters from the front of the
text and hands what it took, and what is left, to the rest of the pattern; if that fails, the piece
tries the next length. The first way that succeeds is the match. -/
namespace LiveTemplate.Text.Pattern

variable {α : Type}

/-- As many characters of a kind as there are, then ever fewer. -/
def most (fits : Char → Bool) (next : (taken left : List Char) → Option α) (text : List Char) :
    Option α :=
  (List.range ((text.takeWhile fits).length + 1)).reverse.findSome? fun count =>
    next (text.take count) (text.drop count)

/-- One character of a kind, then ever more. -/
def fewest (fits : Char → Bool) (next : (taken left : List Char) → Option α) (text : List Char) :
    Option α :=
  (List.range' 1 (text.takeWhile fits).length).findSome? fun count =>
    next (text.take count) (text.drop count)

def literal (c : Char) (next : (left : List Char) → Option α) : List Char → Option α
  | d :: left => if d = c then next left else none
  | [] => none

/-- The match must reach the end of the text. -/
def atEnd (a : α) (left : List Char) : Option α := if left.isEmpty then some a else none

end LiveTemplate.Text.Pattern
