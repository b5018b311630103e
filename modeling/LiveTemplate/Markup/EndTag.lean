import LiveTemplate.Markup.StartTag
import LiveTemplate.Text.Search

/-! End tags, and what else a bracket with a slash begins. All of it goes on to the next
closing bracket. -/
namespace LiveTemplate.Markup

def isEndNameChar (c : Char) : Bool :=
  isLetter c || Text.isDigit c || c = '-' || c = '.' || c = ':' || c = '_'

def beginsWithLetter (text : List Char) : Bool := (text.head?.map isLetter).getD false

/-- A name between blanks. -/
def plainEndName? (inner : List Char) : Option (List Char) :=
  let text := Text.trimStart inner
  if beginsWithLetter text && Text.allBlank (text.dropWhile isEndNameChar) then
    some (text.takeWhile isEndNameChar)
  else none

/-- The token between `</` and `>`: a name ends an element, also with other text behind it; nothing
at all is dropped, and any other text is a comment. -/
def endToken (place : Text.Position) (inner : List Char) : Option Token :=
  match plainEndName? inner with
  | some name => some (.endTag (String.ofList (Text.lower name)) place)
  | none =>
    if beginsWithLetter inner then
      some (.endTag (String.ofList (Text.lower (inner.takeWhile isTagNameChar))) place)
    else if inner.isEmpty then none
    else some (.comment (String.ofList inner))

/-- An end tag, behind the bracket and slash. -/
def readEndTag (place : Text.Position) (text : List Char) : Reading :=
  match Text.breakAt? ['>'] text with
  | some (inner, rest) => .done (endToken place inner) rest
  | none => .unfinished

theorem within_readEndTag (place : Text.Position) (text : List Char) :
    (readEndTag place text).Within text := by
  unfold readEndTag
  split
  · rename_i found; exact Text.length_le_of_breakAt? found
  · trivial

/-- Equal but for case, where the long s and the two foreign forms of i count as forms of
the letters they are read as. -/
def sameLetter (letter c : Char) : Bool :=
  c.toLower = letter || (letter = 's' && c = 'ſ') || (letter = 'i' && (c = 'ı' || c = 'İ'))

/-- The characters that spell a name, and the text behind them. -/
def takeSpelled? : (name text : List Char) → Option (List Char × List Char)
  | [], text => some ([], text)
  | _ :: _, [] => none
  | letter :: name, c :: text =>
    if sameLetter letter c then
      (takeSpelled? name text).map fun (spelled, rest) => (c :: spelled, rest)
    else none

/-- A tag that looks like the end of a raw-text element. -/
structure RawEnd where
  /-- The tag as it stands. -/
  text : List Char
  /-- Whether the name is spelled in plain letters, so that it is the end. -/
  plain : Bool
  rest : List Char

/-- The end of a raw-text element, at the beginning of a text. -/
def rawEnd? (name : List Char) : List Char → Option RawEnd
  | '<' :: '/' :: text => do
    let (spelled, behind) ← takeSpelled? name (text.dropWhile Text.isBlank)
    match behind.dropWhile Text.isBlank with
    | '>' :: rest =>
      some ⟨'<' :: '/' :: text.take (text.length - rest.length), spelled.all isLetter, rest⟩
    | _ => none
  | _ => none

theorem length_takeSpelled?_le {name text spelled rest : List Char}
    (taken : takeSpelled? name text = some (spelled, rest)) : rest.length ≤ text.length := by
  induction name generalizing text spelled with
  | nil => cases taken; simp
  | cons letter name ih =>
    cases text with
    | nil => cases taken
    | cons c text =>
      simp only [takeSpelled?] at taken
      split at taken
      · obtain ⟨⟨s, r⟩, inner, pair⟩ := Option.map_eq_some_iff.1 taken
        cases pair
        exact Nat.le_trans (ih inner) (by simp)
      · cases taken

theorem length_rest_of_rawEnd? {name text : List Char} {e : RawEnd}
    (found : rawEnd? name text = some e) : e.rest.length < text.length := by
  unfold rawEnd? at found
  split at found
  · rename_i text
    obtain ⟨⟨spelled, behind⟩, taken, found⟩ := Option.bind_eq_some_iff.1 found
    have name := length_takeSpelled?_le taken
    have before := length_dropWhile_le Text.isBlank text
    have after := length_dropWhile_le Text.isBlank behind
    dsimp only at found
    split at found
    · rename_i rest closed
      rw [closed] at after
      cases found
      simp only [List.length_cons] at after ⊢; omega
    · cases found
  · cases found

end LiveTemplate.Markup
