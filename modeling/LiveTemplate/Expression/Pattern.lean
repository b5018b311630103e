import LiveTemplate.Expression.Source
import LiveTemplate.Text.Pattern

/-! Expressions by a pattern. A call is matched as a whole, and only then is its name looked at: it
may have taken blanks in, or be nothing but blanks. -/
namespace LiveTemplate.Expression.Source

open Text.Pattern

def isPlain (c : Char) : Bool := !isParenthesis c

/-- The name and the list of a text that is made up of blanks, a name without parentheses that is as
short as it can be, blanks, a list without parentheses between two of them, and blanks. -/
def groups? : (text : List Char) → Option (List Char × List Char) :=
  most Text.isBlank fun _ => fewest isPlain fun name => most Text.isBlank fun _ =>
    literal '(' <| most isPlain fun list => literal ')' <| most Text.isBlank fun _ =>
      atEnd (name, list)

def ofPattern (text : List Char) : Source :=
  match groups? text with
  | some (name, list) =>
    if Text.trim name ≠ [] then call (String.ofList (Text.trim name)) (parameters list)
    else key (String.ofList (Text.trim text))
  | none => key (String.ofList (Text.trim text))

end LiveTemplate.Expression.Source
