import LiveTemplate.Markup.Render
import LiveTemplate.Proofs.Markup.Endings

/-! How the parser passes the constructs that rendering writes. Scanning and building go on side by
side: a passage leads from one text and the tree built so far to the text behind and the
tree built then, and passages are put one behind the other. -/
namespace LiveTemplate.Markup

/-- A parser on its way: the raw-text element it is in, the text ahead and the tree built. -/
structure Parsing where
  raw : Option String
  text : List Char
  built : Builder

namespace Builder

theorem takeAll_append {strict : Bool} {tokens : List Token} {before after : Builder}
    (taken : takeAll strict tokens before = .ok after) (more : List Token) :
    takeAll strict (tokens ++ more) before = takeAll strict more after := by
  induction tokens generalizing before with
  | nil => cases taken; rfl
  | cons token tokens ih =>
    simp only [List.cons_append, takeAll] at taken ⊢
    split at taken
    · exact ih taken
    · cases taken

theorem takeAll_singleton {strict : Bool} {token : Token} {before after : Builder}
    (taken : before.take strict token = .ok after) :
    takeAll strict [token] before = .ok after := by
  rw [takeAll, taken]
  rfl

/-- The builder with one more open element. -/
def opened (tag : String) (attributes : Attributes) (b : Builder) : Builder :=
  { b with stack := ⟨tag, attributes, []⟩ :: b.stack }

theorem mapChildren_id (b : Builder) : b.mapChildren (fun children => children) = b := by
  obtain ⟨_ | ⟨e, stack⟩, top⟩ := b <;> rfl

theorem mapChildren_mapChildren (b : Builder) (f g : List Node → List Node) :
    (b.mapChildren f).mapChildren g = b.mapChildren fun children => g (f children) := by
  obtain ⟨_ | ⟨e, stack⟩, top⟩ := b <;> rfl

/-- What is put into an opened element is its content once it is closed. -/
theorem closeInnermost_opened (b : Builder) (tag : String) (attributes : Attributes)
    (f : List Node → List Node) :
    ((b.opened tag attributes).mapChildren f).closeInnermost =
      b.add (.element tag attributes [] (f []).reverse) := rfl

/-- An end tag closes the innermost element if that is the element it names. -/
theorem take_endTag (strict : Bool) (b : Builder) (tag : String) (attributes : Attributes)
    (f : List Node → List Node) (place : Text.Position) :
    ((b.opened tag attributes).mapChildren f).take strict (.endTag tag place) =
      .ok (b.add (.element tag attributes [] (f []).reverse)) := by
  have innermost : ((b.opened tag attributes).mapChildren f).closedBy? tag = some 1 := by
    simp [closedBy?, opened, mapChildren, List.findIdx?_cons]
  rw [take, endTag, innermost]
  exact congrArg Except.ok (closeInnermost_opened b tag attributes f)

end Builder

namespace Parsing

/-- However strict the builder is and wherever the text stands, the scanner finds tokens on its way
that the builder takes. -/
def Leads (before after : Parsing) : Prop :=
  ∀ strict place, ∃ tokens behind,
    (scanFrom before.raw place before.text).tokens =
        tokens ++ (scanFrom after.raw behind after.text).tokens ∧
      (scanFrom before.raw place before.text).error =
        (scanFrom after.raw behind after.text).error ∧
      Builder.takeAll strict tokens before.built = .ok after.built

theorem Leads.refl (p : Parsing) : p.Leads p := fun _ place => ⟨[], place, rfl, rfl, rfl⟩

theorem Leads.trans {p q r : Parsing} (first : p.Leads q) (second : q.Leads r) :
    p.Leads r := by
  intro strict place
  obtain ⟨tokens, middle, found, error, taken⟩ := first strict place
  obtain ⟨more, behind, foundMore, errorMore, takenMore⟩ := second strict middle
  refine ⟨tokens ++ more, behind, ?_, error.trans errorMore, ?_⟩
  · rw [found, foundMore, List.append_assoc]
  · rw [Builder.takeAll_append taken, takenMore]

theorem scanFrom_of_step {raw next : Option String} {place : Text.Position} {c : Char}
    {text rest : List Char} {tokens : List Token}
    (stepped : step raw place c text = .more tokens next rest) :
    scanFrom raw place (c :: text) =
      ⟨tokens ++ (scanFrom next (placeBehind place (c :: text) rest) rest).tokens,
        (scanFrom next (placeBehind place (c :: text) rest) rest).error⟩ := by
  rw [scanFrom]
  split
  · rename_i stopped
    rw [stepped] at stopped
    cases stopped
  · rename_i taken
    rw [stepped] at taken
    cases taken
    rfl

/-- One step of the scanner whose tokens the builder takes. -/
theorem leads_of_step {raw next : Option String} {c : Char} {text rest : List Char}
    {b built : Builder} (tokens : Text.Position → List Token)
    (stepped : ∀ place, step raw place c text = .more (tokens place) next rest)
    (taken : ∀ strict place, Builder.takeAll strict (tokens place) b = .ok built) :
    Leads ⟨raw, c :: text, b⟩ ⟨next, rest, built⟩ := by
  intro strict place
  have scanned := scanFrom_of_step (stepped place)
  refine ⟨tokens place, placeBehind place (c :: text) rest, ?_, ?_, taken strict place⟩
  · rw [scanned]
  · rw [scanned]

/-- The passage of a whole text is its parse. -/
theorem parse_of_leads {text : String} {built : Builder}
    (leads : Leads ⟨none, text.toList, .empty⟩ ⟨none, [], built⟩) (strict : Bool) :
    parse strict false text = .ok (.fragment built.finish) := by
  obtain ⟨tokens, behind, found, error, taken⟩ := leads strict Text.Position.start
  have ended : scanFrom none behind [] = ⟨[], none⟩ := by rw [scanFrom]
  simp only [ended, List.append_nil] at found error
  simp [parse, scan, found, error, taken]

/-- A construct behind its angle bracket that leaves a token. -/
theorem step_markup {place : Text.Position} {text rest : List Char} {token : Token}
    (read : readMarkup place text = .done (some token) rest) :
    step none place '<' text = .more [token] token.rawTag? rest := by
  simp [step, isOpening, stepMarkup, read]

variable (b : Builder) (rest : List Char)

/-- Text goes on to the next tag, which its escaped form does not show. -/
theorem leads_text {data : String} (shown : data ≠ "") (stop : ∀ c ∈ rest.head?, c = '<') :
    Leads ⟨none, escapeText data.toList ++ rest, b⟩
      ⟨none, rest, b.mapChildren (Builder.joinData data)⟩ := by
  have inside : ∀ c ∈ escapeText data.toList, (!isOpening c) = true := by
    intro c member
    have notOpening : c ≠ '<' := by
      rintro rfl
      exact opening_notMem_escapeText _ member
    simpa [isOpening] using notOpening
  have outside : ∀ c ∈ rest.head?, ¬ (!isOpening c) = true := by
    intro c first
    simp [isOpening, stop c first]
  cases whole : escapeText data.toList with
  | nil =>
    exact absurd (String.toList_eq_nil_iff.1 (eq_nil_of_escapeText whole)) shown
  | cons c more =>
    refine leads_of_step (fun _ => [.data data]) (fun place => ?_) (fun _ _ => rfl)
    have text : c :: (more ++ rest) = escapeText data.toList ++ rest := by rw [whole]; rfl
    have opening : isOpening c = false := by
      simpa using inside c (by rw [whole]; exact List.mem_cons_self)
    have stepped : step none place c (more ++ rest) =
        stepData (escapeText data.toList) rest := by
      rw [step, opening, text, Text.takeWhile_append_stop inside outside,
        Text.dropWhile_append_stop inside outside]
      rfl
    simp only [List.append_eq, stepped, stepData, resolve_escapeText, dataToken,
      String.ofList_toList]

theorem leads_comment {data : String} (clean : '>' ∉ data.toList) :
    Leads ⟨none, renderNode false (.comment data) ++ rest, b⟩
      ⟨none, rest, b.add (.comment data)⟩ := by
  have text : renderNode false (.comment data) ++ rest =
      '<' :: '!' :: ('-' :: '-' :: data.toList ++ '-' :: '-' :: '>' :: rest) := by
    simp [renderNode]
  have read := readDeclaration_comment clean rest
  rw [String.ofList_toList] at read
  rw [text]
  exact leads_of_step (fun _ => [.comment data]) (fun _ => step_markup read) (fun _ _ => rfl)

theorem leads_startTag {tag : String} (plain : PlainTag tag) {attributes : Attributes}
    (clean : attributes.Clean) :
    Leads ⟨none, renderStartTag tag attributes ++ rest, b⟩
      ⟨if isRawText tag then some tag else none, rest,
        if isVoid tag then b.add (.element tag attributes [] []) else b.opened tag attributes⟩ := by
  have text : renderStartTag tag attributes ++ rest =
      '<' :: (tag.toList ++ attributeText attributes rest) := by
    simp [renderStartTag, attributeText]
  have read (place : Text.Position) :
      readMarkup place (tag.toList ++ attributeText attributes rest) =
        .done (some (.startTag tag (attributes.map tokenEntry))) rest := by
    rw [← readStartTag_plain plain clean, readMarkup]
    · rw [if_pos (plain.beginsWithLetter _)]
    all_goals
      rintro more whole
      have letter := plain.beginsWithLetter (attributeText attributes rest)
      rw [whole] at letter
      simp [beginsWithLetter, isLetter] at letter
  rw [text]
  refine leads_of_step (fun _ => [.startTag tag (attributes.map tokenEntry)])
    (fun place => step_markup (read place)) (fun strict _ => ?_)
  refine Builder.takeAll_singleton ?_
  rw [Builder.take, firstOfEach_tokenEntry clean]
  split <;> rfl

theorem leads_endTag {tag : String} (plain : PlainTag tag) (attributes : Attributes)
    (f : List Node → List Node) :
    Leads ⟨none, renderEndTag tag ++ rest, (b.opened tag attributes).mapChildren f⟩
      ⟨none, rest, b.add (.element tag attributes [] (f []).reverse)⟩ := by
  have text : renderEndTag tag ++ rest = '<' :: '/' :: (tag.toList ++ '>' :: rest) := by
    simp [renderEndTag]
  have read (place : Text.Position) : readMarkup place ('/' :: (tag.toList ++ '>' :: rest)) =
      .done (some (.endTag tag place)) rest := readEndTag_plain plain place rest
  rw [text]
  refine leads_of_step (fun place => [.endTag tag place])
    (fun place => step_markup (read place)) (fun strict place => ?_)
  exact Builder.takeAll_singleton (Builder.take_endTag strict b tag attributes f place)

/-- Raw text and the end tag behind it are found in one step. -/
theorem leads_rawText {tag : String} (raw : isRawText tag) {data : String}
    (clean : ¬ ['<', '/'] <:+: data.toList) (attributes : Attributes) :
    Leads ⟨some tag, data.toList ++ renderEndTag tag ++ rest, b.opened tag attributes⟩
      ⟨none, rest, b.add (.element tag attributes []
        (if data = "" then [] else [.text data]))⟩ := by
  obtain ⟨shown, found⟩ := breakWhere?_rawEnd raw clean rest
  have text : data.toList ++ renderEndTag tag ++ rest =
      data.toList ++ '<' :: '/' :: tag.toList ++ '>' :: rest := by
    simp [renderEndTag]
  obtain ⟨c, more, whole⟩ : ∃ c more, data.toList ++ '<' :: '/' :: tag.toList ++ '>' :: rest =
      c :: more := List.exists_cons_of_ne_nil (by simp)
  rw [text, whole]
  rw [whole] at found
  refine leads_of_step
    (fun place => (if data.toList.isEmpty then [] else [dataToken data.toList]) ++
      [.endTag tag (data.toList.foldl Text.Position.advance place)])
    (fun place => by simp [step, stepRaw, found]) (fun strict place => ?_)
  have close (f : List Node → List Node) := Builder.takeAll_singleton <|
    Builder.take_endTag strict b tag attributes f (data.toList.foldl Text.Position.advance place)
  by_cases empty : data = ""
  · subst empty
    exact close fun children => children
  · have notNil : data.toList.isEmpty = false := by simpa using empty
    simp only [notNil, empty, if_false, dataToken, String.ofList_toList]
    exact close (Builder.joinData data)

end Parsing

end LiveTemplate.Markup
