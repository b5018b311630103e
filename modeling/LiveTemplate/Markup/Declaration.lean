import LiveTemplate.Markup.EndTag

/-! Comments, processing instructions, and the declarations that begin with an exclamation mark.
Only comments leave a token. A marked section needs a name, and its name tells how
it ends. -/
namespace LiveTemplate.Markup

/-- Blanks and then a closing bracket. -/
def closingBracket? (text : List Char) : Option (List Char) :=
  Text.stripHead? ['>'] (text.dropWhile Text.isBlank)

def commentEnd? (text : List Char) : Option (List Char) :=
  (Text.stripHead? ['-', '-'] text).bind closingBracket?

/-- One square bracket ends a conditional section. -/
def conditionalEnd? (text : List Char) : Option (List Char) :=
  (Text.stripHead? [']'] text).bind closingBracket?

/-- Two square brackets end any other section; blanks may stand between. -/
def sectionEnd? (text : List Char) : Option (List Char) :=
  (Text.stripHead? [']'] text).bind fun behind => conditionalEnd? (behind.dropWhile Text.isBlank)

/-- A reading that goes on to an end and leaves a token made of what lies before it. -/
def readTo (end? : List Char → Option (List Char)) (token : List Char → Option Token)
    (text : List Char) : Reading :=
  match Text.breakWhere? end? text with
  | some (before, rest) => .done (token before) rest
  | none => .unfinished

def dropped (_ : List Char) : Option Token := none

def commentToken (text : List Char) : Option Token := some (.comment (String.ofList text))

def plainSections : List String := ["temp", "cdata", "ignore", "include", "rcdata"]

def conditionalSections : List String := ["if", "else", "endif"]

def isSectionNameChar (c : Char) : Bool :=
  isLetter c || Text.isDigit c || c = '-' || c = '_' || c = '.'

/-- How much of a text without a section name is shown. -/
def shownLength : Nat := 20

/-- A marked section, behind its square bracket. Its name and the blanks behind it must not reach
the end of the text. -/
def readSection (text : List Char) : Reading :=
  if text.isEmpty then .unfinished
  else if !beginsWithLetter text then
    .failed (.sectionNameExpected (String.ofList (('<' :: '!' :: '[' :: text).take shownLength)))
  else
    let name := text.takeWhile isSectionNameChar
    let behind := text.dropWhile isSectionNameChar
    if (behind.dropWhile Text.isBlank).isEmpty then .unfinished
    else
      let word := String.ofList (name.map Char.toLower)
      if plainSections.contains word then readTo sectionEnd? dropped text
      else if conditionalSections.contains word then readTo conditionalEnd? dropped text
      else .failed (.unknownSection (String.ofList (name ++ behind.takeWhile Text.isBlank)))

def isDoctype (text : List Char) : Bool :=
  (text.take 7).map Char.toLower = ['d', 'o', 'c', 't', 'y', 'p', 'e']

/-- A declaration, behind its exclamation mark; one of no known form is a comment. -/
def readDeclaration : List Char → Reading
  | '-' :: '-' :: text => readTo commentEnd? commentToken text
  | '[' :: text => readSection text
  | text =>
    if isDoctype text then readTo (Text.stripHead? ['>']) dropped (text.drop 7)
    else readTo (Text.stripHead? ['>']) commentToken text

/-- A processing instruction, behind its question mark. -/
def readInstruction (text : List Char) : Reading :=
  readTo (Text.stripHead? ['>']) dropped text

/-- An end that takes nothing back. -/
def Shrinks (end? : List Char → Option (List Char)) : Prop :=
  ∀ text rest, end? text = some rest → rest.length ≤ text.length

theorem shrinks_stripHead? (head : List Char) : Shrinks (Text.stripHead? head) := by
  intro text rest found
  simp [Text.stripHead?_eq_some_iff.1 found]

theorem shrinks_closingBracket? : Shrinks closingBracket? := fun text _ found =>
  Nat.le_trans (shrinks_stripHead? _ _ _ found) (length_dropWhile_le Text.isBlank text)

theorem shrinks_bind {first next : List Char → Option (List Char)} (a : Shrinks first)
    (b : Shrinks next) : Shrinks fun text => (first text).bind next := by
  intro text rest found
  obtain ⟨middle, here, behind⟩ := Option.bind_eq_some_iff.1 found
  exact Nat.le_trans (b _ _ behind) (a _ _ here)

theorem shrinks_commentEnd? : Shrinks commentEnd? :=
  shrinks_bind (shrinks_stripHead? _) shrinks_closingBracket?

theorem shrinks_conditionalEnd? : Shrinks conditionalEnd? :=
  shrinks_bind (shrinks_stripHead? _) shrinks_closingBracket?

theorem shrinks_sectionEnd? : Shrinks sectionEnd? :=
  shrinks_bind (shrinks_stripHead? _) fun text _ found =>
    Nat.le_trans (shrinks_conditionalEnd? _ _ found) (length_dropWhile_le Text.isBlank text)

theorem within_readTo {end? : List Char → Option (List Char)} (shrinks : Shrinks end?)
    (token : List Char → Option Token) (text : List Char) :
    (readTo end? token text).Within text := by
  unfold readTo
  split
  · rename_i before rest found
    obtain ⟨behind, whole, here⟩ := Text.exists_of_breakWhere? found
    have := shrinks _ _ here
    simp only [Reading.Within, whole, List.length_append]; omega
  · trivial

theorem Reading.Within.mono {r : Reading} {text whole : List Char} (within : r.Within text)
    (le : text.length ≤ whole.length) : r.Within whole := by
  cases r with
  | done token rest => exact Nat.le_trans within le
  | unfinished | failed => trivial

theorem within_readSection (text : List Char) : (readSection text).Within text := by
  unfold readSection
  dsimp only
  repeat' split
  all_goals first
    | trivial
    | exact within_readTo shrinks_sectionEnd? _ _
    | exact within_readTo shrinks_conditionalEnd? _ _

theorem within_readDeclaration (text : List Char) : (readDeclaration text).Within text := by
  unfold readDeclaration
  split
  · exact (within_readTo shrinks_commentEnd? _ _).mono (by simp; omega)
  · exact (within_readSection _).mono (by simp)
  · split
    · exact (within_readTo (shrinks_stripHead? _) _ _).mono (by simp)
    · exact within_readTo (shrinks_stripHead? _) _ _

theorem within_readInstruction (text : List Char) : (readInstruction text).Within text :=
  within_readTo (shrinks_stripHead? _) _ _

end LiveTemplate.Markup
