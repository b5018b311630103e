import LiveTemplate.Markup.Reference
import LiveTemplate.Markup.Token
import LiveTemplate.Text.Blank
import LiveTemplate.Text.Lowercase

/-! Start tags. Attributes stand apart by blanks or slashes, or directly behind a quote. A value is
quoted or goes on to the next blank or closing bracket; a quote that is never closed
gives no value of its own. -/
namespace LiveTemplate.Markup

def isLetter (c : Char) : Bool := ('a' ≤ c && c ≤ 'z') || ('A' ≤ c && c ≤ 'Z')

def isQuote (c : Char) : Bool := c = '"' || c = '\x27'

def isTagNameChar (c : Char) : Bool :=
  !(c = '\t' || c = '\n' || c = '\r' || c = '\x0C' || c = ' ' || c = '/' || c = '>' || c = '\x00')

def isAttributeNameChar (c : Char) : Bool := !(Text.isBlank c || c = '/' || c = '=' || c = '>')

/-- An equals sign can begin a name, though it cannot go on with one. -/
def beginsAttribute (c : Char) : Bool := !(Text.isBlank c || c = '/' || c = '>')

def isBareValueChar (c : Char) : Bool := !(Text.isBlank c || c = '>')

/-- An attribute can begin directly behind these characters only. -/
def admitsAttribute (c : Char) : Bool := isQuote c || Text.isBlank c || c = '/'

def endsAdmitting (name : List Char) : Bool := (name.getLast?.map admitsAttribute).getD false

/-- The blanks and slashes between attributes; a slash before the closing bracket is left. With any
of them an attribute may follow, without them only if it might before. -/
def gap (ready : Bool) : List Char → Bool × List Char
  | [] => (ready, [])
  | c :: text =>
    if Text.isBlank c || (c = '/' && text.head? ≠ some '>') then gap true text
    else (ready, c :: text)

/-- A value, whether an attribute may follow directly, and the text behind. -/
structure ValueReading where
  value : List Char
  ready : Bool
  rest : List Char

/-- A value behind its equals signs, which end at `signs`; `spare` tells of more than one. A quote
without its partner is no value: blanks before it leave an empty one, a spare sign begins a
bare one, otherwise there is none. -/
def readValueBehind? (spare : Bool) (signs : List Char) : Option ValueReading :=
  match signs.dropWhile Text.isBlank with
  | [] => some ⟨[], false, []⟩
  | c :: text =>
    if isQuote c then
      match text.dropWhile (· ≠ c) with
      | _ :: rest => some ⟨text.takeWhile (· ≠ c), true, rest⟩
      | [] =>
        if (signs.head?.map Text.isBlank).getD false then some ⟨[], true, c :: text⟩
        else if spare then
          some ⟨'=' :: signs.takeWhile isBareValueChar, false, signs.dropWhile isBareValueChar⟩
        else none
    else some ⟨(c :: text).takeWhile isBareValueChar, false, (c :: text).dropWhile isBareValueChar⟩

def readValue? (text : List Char) : Option ValueReading :=
  match text.dropWhile Text.isBlank with
  | '=' :: signs => readValueBehind? (signs.head? = some '=') (signs.dropWhile (· = '='))
  | _ => none

structure AttributeReading where
  name : List Char
  value : Option (List Char)
  ready : Bool
  rest : List Char

def readAttribute? : List Char → Option AttributeReading
  | [] => none
  | c :: text =>
    if beginsAttribute c then
      let name := c :: text.takeWhile isAttributeNameChar
      let behind := text.dropWhile isAttributeNameChar
      match readValue? behind with
      | some v =>
        let (ready, rest) := gap v.ready v.rest
        some ⟨name, some v.value, ready, rest⟩
      | none =>
        let (ready, rest) := gap (endsAdmitting name) behind
        some ⟨name, none, ready, rest⟩
    else none

theorem length_gap_le (ready : Bool) (text : List Char) :
    (gap ready text).2.length ≤ text.length := by
  induction text generalizing ready with
  | nil => simp [gap]
  | cons c text ih =>
    simp only [gap]
    split
    · exact Nat.le_trans (ih true) (by simp)
    · simp

theorem length_rest_of_readValueBehind? {spare : Bool} {signs : List Char} {v : ValueReading}
    (read : readValueBehind? spare signs = some v) : v.rest.length ≤ signs.length := by
  have drop (p : Char → Bool) (cs : List Char) := length_dropWhile_le p cs
  have blanks := drop Text.isBlank signs
  unfold readValueBehind? at read
  split at read
  · cases read; simp
  · rename_i c text whole
    rw [whole] at blanks
    simp only [List.length_cons] at blanks
    split at read
    · have quote := drop (· ≠ c) text
      split at read
      · rename_i rest closed
        rw [closed] at quote
        simp only [List.length_cons] at quote
        cases read; dsimp only; omega
      · split at read
        · cases read; simpa using blanks
        · split at read
          · cases read; exact drop _ _
          · cases read
    · cases read
      exact Nat.le_trans (drop _ _) (by simpa using blanks)

theorem length_rest_of_readValue? {text : List Char} {v : ValueReading}
    (read : readValue? text = some v) : v.rest.length ≤ text.length := by
  have blanks := length_dropWhile_le Text.isBlank text
  unfold readValue? at read
  split at read
  · rename_i signs whole
    rw [whole] at blanks
    have := length_rest_of_readValueBehind? read
    have := length_dropWhile_le (· = '=') signs
    simp only [List.length_cons] at blanks
    omega
  · cases read

theorem length_rest_of_readAttribute? {text : List Char} {a : AttributeReading}
    (read : readAttribute? text = some a) : a.rest.length < text.length := by
  cases text with
  | nil => cases read
  | cons c text =>
    have behind := length_dropWhile_le isAttributeNameChar text
    simp only [readAttribute?] at read
    split at read
    · split at read
      · rename_i v value
        have := length_rest_of_readValue? value
        have := length_gap_le v.ready v.rest
        cases read
        simp only [List.length_cons]; omega
      · have := length_gap_le (endsAdmitting (c :: text.takeWhile isAttributeNameChar))
          (text.dropWhile isAttributeNameChar)
        cases read
        simp only [List.length_cons]; omega
    · cases read

/-- Attributes as long as one can begin, and the text behind them. -/
def readAttributes (ready : Bool) (text : List Char) :
    List (List Char × Option (List Char)) × List Char :=
  if ready then
    match read : readAttribute? text with
    | some a =>
      have := length_rest_of_readAttribute? read
      let (attributes, rest) := readAttributes a.ready a.rest
      ((a.name, a.value) :: attributes, rest)
    | none => ([], text)
  else ([], text)
termination_by text.length

theorem length_readAttributes_le (ready : Bool) (text : List Char) :
    (readAttributes ready text).2.length ≤ text.length := by
  fun_induction readAttributes ready text with
  | case1 text a read shorter _ _ attributes ih =>
    simp only [attributes] at ih
    dsimp only; omega
  | case2 | case3 => simp

/-- Names are in lower case and references in values resolved. -/
def finishAttribute : List Char × Option (List Char) → Except Error (String × Option String)
  | (name, none) => .ok (String.ofList (Text.lower name), none)
  | (name, some value) => (resolve value).map fun resolved =>
    (String.ofList (Text.lower name), some (String.ofList resolved))

/-- The token of a tag is made of its attributes, unless one of them cannot be read. -/
def finishWith (token : List (String × Option String) → Token)
    (attributes : List (List Char × Option (List Char))) (rest : List Char) : Reading :=
  match attributes.mapM finishAttribute with
  | .ok attributes => .done (some (token attributes)) rest
  | .error error => .failed error

/-- What ends a start tag. A tag broken off by any other character than a sign or letter is data
as it stands, though its attributes are read all the same; `text` begins behind the opening
bracket. -/
def finishStartTag (text name : List Char) (attributes : List (List Char × Option (List Char))) :
    (rest : List Char) → Reading
  | '>' :: rest => finishWith (.startTag (String.ofList (Text.lower name))) attributes rest
  | '/' :: '>' :: rest => finishWith (.emptyTag (String.ofList (Text.lower name))) attributes rest
  | [] => .unfinished
  | c :: rest =>
    if c = '=' || c = '/' || isLetter c then .unfinished
    else
      let taken := text.take (text.length - (c :: rest).length)
      finishWith (fun _ => .data (String.ofList ('<' :: taken))) attributes (c :: rest)

/-- A start tag, behind its opening bracket. -/
def readStartTag (text : List Char) : Reading :=
  let name := text.takeWhile isTagNameChar
  let (ready, behind) := gap (endsAdmitting name) (text.dropWhile isTagNameChar)
  let (attributes, rest) := readAttributes ready behind
  finishStartTag text name attributes rest

theorem within_finishWith {text rest : List Char}
    (token : List (String × Option String) → Token)
    (attributes : List (List Char × Option (List Char))) (within : rest.length ≤ text.length) :
    (finishWith token attributes rest).Within text := by
  unfold finishWith
  split
  · exact within
  · trivial

theorem within_finishStartTag {text name rest : List Char}
    {attributes : List (List Char × Option (List Char))} (within : rest.length ≤ text.length) :
    (finishStartTag text name attributes rest).Within text := by
  unfold finishStartTag
  split
  · exact within_finishWith _ _ (by simp only [List.length_cons] at within; omega)
  · exact within_finishWith _ _ (by simp only [List.length_cons] at within; omega)
  · trivial
  · split
    · trivial
    · exact within_finishWith _ _ within

theorem within_readStartTag (text : List Char) : (readStartTag text).Within text := by
  have name := length_dropWhile_le isTagNameChar text
  have blanks := length_gap_le (endsAdmitting (text.takeWhile isTagNameChar))
    (text.dropWhile isTagNameChar)
  have attributes := length_readAttributes_le
    (gap (endsAdmitting (text.takeWhile isTagNameChar)) (text.dropWhile isTagNameChar)).1
    (gap (endsAdmitting (text.takeWhile isTagNameChar)) (text.dropWhile isTagNameChar)).2
  exact within_finishStartTag (by omega)

end LiveTemplate.Markup
