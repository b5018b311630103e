import LiveTemplate.Text.Blank

/-! The grammar of expressions. A call is a name and a parameter list in parentheses, with blanks
around and nothing behind; whatever has another shape is the name of one key. The text is cut at the
parentheses; a pattern for calls comes to the same. -/
namespace LiveTemplate.Expression

inductive Source where
  | key (name : String)
  | call (function : String) (parameters : List String)
  deriving DecidableEq, Repr

namespace Source

def isParenthesis (c : Char) : Bool := c = '(' || c = ')'

/-- The text before, between and behind a first pair of parentheses without others inside. -/
def parts? (text : List Char) : Option (List Char × List Char × List Char) :=
  match text.dropWhile (!isParenthesis ·) with
  | '(' :: rest => match rest.dropWhile (!isParenthesis ·) with
    | ')' :: behind =>
      some (text.takeWhile (!isParenthesis ·), rest.takeWhile (!isParenthesis ·), behind)
    | _ => none
  | _ => none

/-- Empty pieces between commas are parameters too, but a blank list has none. -/
def parameters (text : List Char) : List String :=
  if Text.allBlank text then []
  else (Text.splitOn ',' text).map fun piece => String.ofList (Text.trim piece)

def ofList (text : List Char) : Source :=
  match parts? text with
  | some (head, inner, behind) =>
    if !Text.allBlank head && Text.allBlank behind then
      call (String.ofList (Text.trim head)) (parameters inner)
    else key (String.ofList (Text.trim text))
  | none => key (String.ofList (Text.trim text))

/-- Every text is some expression. -/
def parse (text : String) : Source := ofList text.toList

/-- The form in which a call is written: the parameters are set apart by a comma and a space. -/
def canonicalCall (function : String) (parameters : List String) : String :=
  function ++ "(" ++ String.intercalate ", " parameters ++ ")"

end Source
end LiveTemplate.Expression
