import LiveTemplate.Markup.Declaration

/-! The tokens of a whole text. Outside raw-text elements, text up to the next angle bracket is
data. What the bracket begins is read; if its end is missing, the text up to the next
closing bracket is data after all. In a raw-text element everything up to its end tag is
data, and without an end tag the rest of the text is dropped. -/
namespace LiveTemplate.Markup

/-- What begins at an angle bracket, told by the characters behind it. -/
def readMarkup (place : Text.Position) : List Char → Reading
  | '/' :: text => readEndTag place text
  | '!' :: text => readDeclaration text
  | '?' :: text => readInstruction text
  | text =>
    if beginsWithLetter text then readStartTag text else .done (some (.data "<")) text

theorem within_readMarkup (place : Text.Position) (text : List Char) :
    (readMarkup place text).Within text := by
  unfold readMarkup
  split
  · exact (within_readEndTag _ _).mono (by simp)
  · exact (within_readDeclaration _).mono (by simp)
  · exact (within_readInstruction _).mono (by simp)
  · split
    · exact within_readStartTag _
    · exact Nat.le_refl _

/-- How far an unfinished construct goes: through the next closing bracket, else to the next opening
one, else no further. -/
def unfinishedText (text : List Char) : List Char × List Char :=
  match Text.breakAt? ['>'] text with
  | some (before, rest) => (before ++ ['>'], rest)
  | none => match Text.breakAt? ['<'] text with
    | some (before, rest) => (before, '<' :: rest)
    | none => ([], text)

theorem length_unfinishedText_le (text : List Char) :
    (unfinishedText text).2.length ≤ text.length := by
  unfold unfinishedText
  split
  · rename_i found; exact Text.length_le_of_breakAt? found
  · split
    · rename_i found
      simp [Text.eq_append_of_breakAt? found]
    · simp

/-- One step through a text: the tokens, the raw-text element that the text behind is in, and that
text; or the end, perhaps with an error. -/
inductive Step where
  | more (tokens : List Token) (raw : Option String) (rest : List Char)
  | stop (error : Option Error)

def dataToken (text : List Char) : Token := .data (String.ofList text)

/-- Data whose references are resolved, if they can be, and the text behind it. -/
def stepData (text rest : List Char) : Step :=
  match resolve text with
  | .ok text => .more [dataToken text] none rest
  | .error error => .stop (some error)

/-- A step from an angle bracket. -/
def stepMarkup (place : Text.Position) (text : List Char) : Step :=
  match readMarkup place text with
  | .done token rest => .more token.toList (token.bind Token.rawTag?) rest
  | .failed error => .stop (some error)
  | .unfinished =>
    let (taken, rest) := unfinishedText text
    stepData ('<' :: taken) rest

/-- A step in a raw-text element. A tag that only looks like its end is data as well. -/
def stepRaw (name : String) (place : Text.Position) (text : List Char) : Step :=
  match Text.breakWhere? (rawEnd? name.toList) text with
  | none => .stop none
  | some (before, found) =>
    let lead := if before.isEmpty then [] else [dataToken before]
    if found.plain then
      .more (lead ++ [.endTag name (before.foldl Text.Position.advance place)]) none found.rest
    else .more (lead ++ [dataToken found.text]) (some name) found.rest

def isOpening (c : Char) : Bool := c = '<'

/-- A step through the text `c :: text`. -/
def step (raw : Option String) (place : Text.Position) (c : Char) (text : List Char) : Step :=
  match raw with
  | some name => stepRaw name place (c :: text)
  | none =>
    if isOpening c then stepMarkup place text
    else stepData ((c :: text).takeWhile (!isOpening ·)) ((c :: text).dropWhile (!isOpening ·))

theorem rest_of_stepData {text rest behind : List Char} {tokens : List Token}
    {next : Option String} (taken : stepData text rest = .more tokens next behind) :
    behind = rest := by
  unfold stepData at taken
  split at taken <;> cases taken
  rfl

theorem length_rest_of_step {raw : Option String} {place : Text.Position} {c : Char}
    {text : List Char} {tokens : List Token} {next : Option String} {rest : List Char}
    (taken : step raw place c text = .more tokens next rest) :
    rest.length < (c :: text).length := by
  unfold step at taken
  split at taken
  · unfold stepRaw at taken
    split at taken
    · cases taken
    · rename_i before found place
      obtain ⟨behind, whole, here⟩ := Text.exists_of_breakWhere? place
      have := length_rest_of_rawEnd? here
      rw [whole, List.length_append]
      dsimp only at taken
      split at taken <;> (cases taken; omega)
  · split at taken
    · unfold stepMarkup at taken
      have within := within_readMarkup place text
      split at taken
      · rename_i token end' read
        rw [read] at within
        cases taken
        exact Nat.lt_succ_of_le within
      · cases taken
      · cases rest_of_stepData taken
        exact Nat.lt_succ_of_le (length_unfinishedText_le text)
    · rename_i opening
      cases rest_of_stepData taken
      have := length_dropWhile_le (!isOpening ·) text
      simp only [List.dropWhile_cons, opening, Bool.not_false, List.length_cons]
      simp only [if_true]
      omega

/-- Tokens in order, and the error that ends the text early. -/
structure Scan where
  tokens : List Token
  error : Option Error

/-- The place behind what was taken from a text. -/
def placeBehind (place : Text.Position) (text rest : List Char) : Text.Position :=
  (text.take (text.length - rest.length)).foldl Text.Position.advance place

def scanFrom (raw : Option String) (place : Text.Position) (text : List Char) : Scan :=
  match text with
  | [] => ⟨[], none⟩
  | c :: behind =>
    match taken : step raw place c behind with
    | .stop error => ⟨[], error⟩
    | .more tokens next rest =>
      have := length_rest_of_step taken
      let later := scanFrom next (placeBehind place (c :: behind) rest) rest
      ⟨tokens ++ later.tokens, later.error⟩
termination_by text.length
decreasing_by exact this

def scan (text : List Char) : Scan := scanFrom none Text.Position.start text

end LiveTemplate.Markup
