import LiveTemplate.Error
import LiveTemplate.Markup.Vocabulary

/-! The pieces of markup: tags, data and comments, in the order of the text. -/
namespace LiveTemplate.Markup

inductive Token where
  | startTag (name : String) (attributes : List (String × Option String))
  /-- A tag that ends itself, so that nothing can stand in its element. -/
  | emptyTag (name : String) (attributes : List (String × Option String))
  | endTag (name : String) (place : Text.Position)
  | data (text : String)
  | comment (text : String)
  deriving DecidableEq, Repr

/-- The tag whose element takes the text behind the token as it stands. -/
def Token.rawTag? : Token → Option String
  | startTag name _ => if isRawText name then some name else none
  | _ => none

/-- What begins at an angle bracket: perhaps a token, and the text behind it. -/
inductive Reading where
  | done (token : Option Token) (rest : List Char)
  | unfinished
  | failed (error : Error)

/-- A reading takes nothing back. -/
def Reading.Within (text : List Char) : Reading → Prop
  | done _ rest => rest.length ≤ text.length
  | unfinished | failed _ => True

end LiveTemplate.Markup
