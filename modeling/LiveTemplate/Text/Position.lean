/-! Places in a text as lines and columns. Lines count from one and columns from zero;
only a line feed ends a line. -/
namespace LiveTemplate.Text

structure Position where
  line : Nat
  column : Nat
  deriving DecidableEq, Repr

namespace Position

def start : Position := ⟨1, 0⟩

def advance (p : Position) (c : Char) : Position :=
  if c = '\n' then ⟨p.line + 1, 0⟩ else ⟨p.line, p.column + 1⟩

/-- The place behind the given text. -/
def after (text : List Char) : Position := text.foldl advance start

end Position
end LiveTemplate.Text
