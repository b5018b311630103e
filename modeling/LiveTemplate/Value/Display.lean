import LiveTemplate.Error
import LiveTemplate.Number.Layout
import LiveTemplate.Value.Basic

/-! The text of a value. `display` is what a reader sees of it and `written` shows its form: the
two differ for strings, which are quoted when written, and for host objects. Containers
show the written form of what they hold; one that is met again inside itself shows dots. -/
namespace LiveTemplate

/-- A number or a string as it is written; a number with too many digits is not. -/
def Scalar.written : Scalar → Except Error String
  | .int n => if Numeral.fits n then .ok (toString n) else .error .numberTooLong
  | .float x => .ok x.text
  | .str s => .ok (Text.quoted s)

namespace Value

def commaSeparated : List String → String := String.intercalate ", "

def inBrackets (items : List String) : String := "[" ++ commaSeparated items ++ "]"

/-- A tuple of one element keeps a comma behind it. -/
def inParentheses : List String → String
  | [item] => "(" ++ item ++ ",)"
  | items => "(" ++ commaSeparated items ++ ")"

def inBraces (items : List String) : String := "\x7b" ++ commaSeparated items ++ "\x7d"

/-- A key and the value under it. -/
def entryText (text : Value → Except Error String) : Value × Value → Except Error String
  | (key, item) => return (← text key) ++ ": " ++ (← text item)

/-- The written form of a value that stands inside the containers of `around`. -/
def writtenWithin (shelf : Shelf) :
    (depth : Nat) → (around : List Value) → Value → Except Error String
  | 0, _, _ => .error .nestedTooDeep
  | depth + 1, around, v =>
    let met := around.any (same v)
    let inner (item : Value) := writtenWithin shelf depth (v :: around) item
    match v with
    | null => .ok "None"
    | unset => .ok "UNSET"
    | bool b => .ok (if b then "True" else "False")
    | scalar _ s => s.written
    | list _ items => if met then .ok "[...]" else (items.mapM inner).map inBrackets
    | sharedList place =>
      if met then .ok "[...]" else ((shelf.items place).mapM inner).map inBrackets
    | tuple _ items => if met then .ok "(...)" else (items.mapM inner).map inParentheses
    | dictionary _ entries =>
      if met then .ok "\x7b...\x7d"
      else (entries.mapM (entryText inner)).map inBraces
    | function name => .ok ("<fn " ++ name ++ ">")
    | object _ o => .ok ("Obj(" ++ o.label ++ ")")

/-- Only a number with too many digits, or too deep a nesting, has no written form. -/
def written (shelf : Shelf) (v : Value) : Except Error String :=
  writtenWithin shelf nestingLimit [] v

def display (shelf : Shelf) : Value → Except Error String
  | scalar _ (.str s) => .ok s
  | object _ o => .ok o.label
  | v => written shelf v

end Value
end LiveTemplate
