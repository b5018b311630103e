import LiveTemplate.Config
import LiveTemplate.Markup.Tokens
import LiveTemplate.Node.Basic
import LiveTemplate.Text.Blank

/-! The tree that tokens build. Open elements form a stack; a token adds to the innermost one. An
end tag closes the innermost open element of its name with everything opened in it, and
nothing if there is none; at the end all that is open is closed. -/
namespace LiveTemplate.Markup

/-- An open element, with its children so far, the latest first. -/
structure OpenElement where
  tag : String
  attributes : Attributes
  children : List Node

def OpenElement.close (e : OpenElement) : Node :=
  .element e.tag e.attributes [] e.children.reverse

/-- The open elements, innermost first, and what stands outside them, the latest first. -/
structure Builder where
  stack : List OpenElement
  top : List Node

namespace Builder

def empty : Builder := ⟨[], []⟩

/-- The children of the innermost open element, or the top level. -/
def mapChildren (f : List Node → List Node) (b : Builder) : Builder :=
  match b.stack with
  | [] => ⟨[], f b.top⟩
  | e :: stack => ⟨{ e with children := f e.children } :: stack, b.top⟩

def add (n : Node) (b : Builder) : Builder := b.mapChildren (n :: ·)

/-- Data directly behind text goes on with that text. -/
def joinData (data : String) : List Node → List Node
  | .text before :: rest => .text (before ++ data) :: rest
  | children => .text data :: children

/-- The first of several attributes of one name counts. -/
def firstOfEach (attributes : List (String × Option String)) : Attributes :=
  attributes.foldl (fun kept (name, value) => Entries.setIfAbsent (some name) value kept) []

/-- The innermost open element is finished and becomes a child of the next one. -/
def closeInnermost (b : Builder) : Builder :=
  match b.stack with
  | [] => b
  | e :: stack => (⟨stack, b.top⟩ : Builder).add e.close

def closeMany : (count : Nat) → Builder → Builder
  | 0, b => b
  | count + 1, b => closeMany count b.closeInnermost

/-- How many elements an end tag closes. -/
def closedBy? (tag : String) (b : Builder) : Option Nat :=
  (b.stack.findIdx? (·.tag = tag)).map (· + 1)

/-- A strict builder refuses an end tag that closes nothing, unless its element is void. -/
def endTag (strict : Bool) (tag : String) (place : Text.Position) (b : Builder) :
    Except Error Builder :=
  match b.closedBy? tag with
  | some count => .ok (closeMany count b)
  | none => if strict && !isVoid tag then .error (.strayEndTag tag place) else .ok b

def take (strict : Bool) (b : Builder) : Token → Except Error Builder
  | .startTag tag attributes =>
    if isVoid tag then .ok (b.add (.element tag (firstOfEach attributes) [] []))
    else .ok { b with stack := ⟨tag, firstOfEach attributes, []⟩ :: b.stack }
  | .emptyTag tag attributes => .ok (b.add (.element tag (firstOfEach attributes) [] []))
  | .endTag tag place => b.endTag strict tag place
  | .data text => .ok (b.mapChildren (joinData text))
  | .comment text => .ok (b.add (.comment text))

def takeAll (strict : Bool) : List Token → Builder → Except Error Builder
  | [], b => .ok b
  | token :: tokens, b => match b.take strict token with
    | .ok b => takeAll strict tokens b
    | .error error => .error error

/-- The finished top level. -/
def finish (b : Builder) : List Node := (closeMany b.stack.length b).top.reverse

end Builder

def isBlankText : Node → Bool
  | .text data => Text.allBlank data.toList
  | _ => false

/-- A lone template element among blank text stands for its children. -/
def unwrapped (nodes : List Node) : List Node :=
  match nodes.filter (!isBlankText ·) with
  | [.element "template" _ _ children] => children
  | _ => nodes

/-- The tokens of a text are taken one by one, so an error in them comes before one in the text
behind. -/
def parse (strict unwrap : Bool) (text : String) : Except Error Node :=
  let scanned := scan text.toList
  match Builder.takeAll strict scanned.tokens .empty with
  | .error error => .error error
  | .ok built => match scanned.error with
    | some error => .error error
    | none => .ok (.fragment (if unwrap then unwrapped built.finish else built.finish))

end LiveTemplate.Markup
