import LiveTemplate.Number.Numeral
import LiveTemplate.Text.Position
import LiveTemplate.Text.Quoted

/-! Errors and what they tell. An `Error` is a cause; its `Report` has a kind and the
wording. Functions of the host may fail with a report of their own. -/
namespace LiveTemplate

inductive Report where
  | general (message : String)
  | compile (message : String)
  | markup (message : String) (line column : Option Int)
  | expression (source message : String)
  | unimplementedPart (kind : String)
  | value (message : String)
  | index (message : String)
  | key (message : String)
  | member (message : String)
  | overflow (message : String)
  | recursion (message : String)
  | argument (message : String)
  | runtime (message : String)
  | unsupported
  | assertion (message : String)
  deriving DecidableEq, Repr

namespace Report

/-- A column without a line is not shown. -/
def location : (line column : Option Int) → String
  | none, _ => ""
  | some line, none => toString line ++ " "
  | some line, some column => toString line ++ ":" ++ toString column ++ " "

def text : Report → String
  | general message | compile message | value message | index message | key message => message
  | member message | overflow message | recursion message | argument message => message
  | runtime message | assertion message => message
  | markup message line column => location line column ++ message
  | expression source message => "Expression '" ++ source ++ "': " ++ message
  | unimplementedPart kind => "No mutation implemented for part kind " ++ Text.quoted kind
  | unsupported => ""

end Report

inductive Error where
  /-- What was to be compiled is neither a fragment nor an element. -/
  | notARoot (typeName : String)
  /-- A tree with a bare node in it cannot be copied. -/
  | notClonable
  | strayEndTag (tag : String) (place : Text.Position)
  | sectionNameExpected (found : String)
  | unknownSection (name : String)
  | notCallable (source key typeName : String)
  | unimplementedKind (kind : String)
  | emptyDelimiter
  | emptyBindingMark
  | equalBindingMarks
  | unknownDigest (name : String)
  | unreadableDigestName
  | cutOutOfRange (offset : Int) (length : Nat)
  | notAChild
  /-- A position that no list could have. -/
  | positionTooLarge
  | unknownName (name : String)
  | unknownNumber
  /-- An object was asked for something that objects of its type do not have. -/
  | missingMember (owner member : String)
  | notANumber (text : String)
  /-- A numeral of so many digits is not read. -/
  | numeralTooLong (digits : Nat)
  /-- A number whose numeral would be too long is not written. -/
  | numberTooLong
  | nestedTooDeep
  /-- A value refused to be tested for truth. -/
  | noTruthValue
  | blockAbandoned
  /-- A function of the host failed. -/
  | host (report : Report)
  deriving DecidableEq, Repr

def limitExceeded : String :=
  "Exceeds the limit (" ++ toString Numeral.digitLimit ++ " digits) for integer string conversion"

def limitAdvice : String := "; use sys.set_int_max_str_digits() to increase the limit"

def Error.report : Error → Report
  | notARoot typeName => .compile ("cannot compile " ++ typeName ++ ": expected a tree root")
  | notClonable => .unsupported
  | strayEndTag tag place =>
    .markup ("unexpected end tag </" ++ tag ++ ">") (some place.line) (some place.column)
  | sectionNameExpected found => .assertion ("expected name token at " ++ Text.quoted found)
  | unknownSection name =>
    .assertion ("unknown status keyword " ++ Text.quoted name ++ " in marked section")
  | notCallable source key typeName =>
    .expression source ("'" ++ key ++ "' is " ++ typeName ++ ", not callable")
  | unimplementedKind kind => .unimplementedPart kind
  | emptyDelimiter => .value "placeholder delimiters must be non-empty"
  | emptyBindingMark => .value "attribute binding prefixes must be non-empty"
  | equalBindingMarks => .value "boolean and property prefixes must differ"
  | unknownDigest name => .value ("unsupported hash type " ++ name)
  | unreadableDigestName => .argument "name must be a string"
  | cutOutOfRange offset length =>
    .index ("split offset " ++ toString offset ++ " out of range for text of length " ++
      toString length)
  | notAChild => .value "node is not a child of this parent"
  | positionTooLarge => .overflow "Python int too large to convert to C ssize_t"
  | unknownName name => .key (Text.quoted name)
  | unknownNumber => .index "list index out of range"
  | missingMember owner member =>
    .member (Text.quoted owner ++ " object has no attribute " ++ Text.quoted member)
  | notANumber text => .value ("could not convert string to float: " ++ Text.quoted text)
  | numeralTooLong digits => .value (limitExceeded ++ ": value has " ++ toString digits ++
      " digits" ++ limitAdvice)
  | numberTooLong => .value (limitExceeded ++ limitAdvice)
  | nestedTooDeep =>
    .recursion "maximum recursion depth exceeded while getting the repr of an object"
  | noTruthValue => .runtime "no truth value"
  | blockAbandoned => .runtime "raised inside"
  | host report => report

/-- The wording of an error. -/
def Error.message (e : Error) : String := e.report.text

end LiveTemplate
