import LiveTemplate.Markup.Escape
import LiveTemplate.Markup.Vocabulary
import LiveTemplate.Node.Basic

/-! Trees as markup. Text is escaped except directly in raw-text elements, comments are kept,
and properties are not shown; void elements show neither content nor end tag. -/
namespace LiveTemplate.Markup

/-- What stands in markup for an attribute without a name. -/
def namelessText : String := "None"

def renderName (name : FieldName) : List Char := (name.getD namelessText).toList

def renderAttribute : FieldName × Option String → List Char
  | (name, none) => ' ' :: renderName name
  | (name, some value) =>
    ' ' :: renderName name ++ '=' :: '"' :: escapeAttribute value.toList ++ ['"']

def renderStartTag (tag : String) (attributes : Attributes) : List Char :=
  '<' :: tag.toList ++ attributes.flatMap renderAttribute ++ ['>']

def renderEndTag (tag : String) : List Char := '<' :: '/' :: tag.toList ++ ['>']

mutual

/-- The markup of a node. Directly in a raw-text element `raw` holds, within fragments too. -/
def renderNode (raw : Bool) : Node → List Char
  | .text data => if raw then data.toList else escapeText data.toList
  | .comment data => ['<', '!', '-', '-'] ++ data.toList ++ ['-', '-', '>']
  | .element tag attributes _ cs =>
    if isVoid tag then renderStartTag tag attributes
    else renderStartTag tag attributes ++ renderNodes (isRawText tag) cs ++ renderEndTag tag
  | .fragment cs => renderNodes raw cs
  | .bare | .bareParent _ => []

def renderNodes (raw : Bool) : List Node → List Char
  | [] => []
  | n :: rest => renderNode raw n ++ renderNodes raw rest

end

def render (n : Node) : String := String.ofList (renderNode false n)

end LiveTemplate.Markup
