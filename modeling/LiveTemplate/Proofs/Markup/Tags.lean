import LiveTemplate.Markup.Render
import LiveTemplate.Markup.Tree
import LiveTemplate.Proofs.Markup.Clean
import LiveTemplate.Proofs.Markup.Escape
import LiveTemplate.Proofs.Text.Cuts

/-! Tags with plain names, read back as they were written. Behind each attribute stands a blank
or the closing bracket, so no reader goes further than the writer did. -/
namespace LiveTemplate.Markup

/-- The attributes of a start tag, and its end with the text behind it. -/
def attributeText (attributes : Attributes) (rest : List Char) : List Char :=
  attributes.flatMap renderAttribute ++ '>' :: rest

/-- What stands behind the name of an attribute. -/
def valueText (value : Option String) (rest : List Char) : List Char :=
  match value with
  | none => rest
  | some value => '=' :: '"' :: escapeAttribute value.toList ++ '"' :: rest

theorem attributeText_cons (name : String) (value : Option String) (attributes : Attributes)
    (rest : List Char) : attributeText ((some name, value) :: attributes) rest =
      ' ' :: name.toList ++ valueText value (attributeText attributes rest) := by
  cases value <;>
    simp [attributeText, valueText, renderAttribute, renderName, List.flatMap_cons]

/-- Attributes begin with a blank, and behind them stands the closing bracket. -/
theorem stop_attributeText {p : Char → Bool} (blank : ¬ p ' ') (closing : ¬ p '>')
    (attributes : Attributes) (rest : List Char) :
    ∀ c ∈ (attributeText attributes rest).head?, ¬ p c := by
  rcases attributes with _ | ⟨⟨name, _ | value⟩, attributes⟩
  all_goals
    rintro _ ⟨⟩
    assumption

theorem PlainName.exists_cons {name : String} (plain : PlainName name) :
    ∃ c more, name.toList = c :: more ∧ isAttributeNameChar c := by
  cases whole : name.toList with
  | nil => exact absurd (String.toList_eq_nil_iff.1 whole) plain.1
  | cons c more =>
    exact ⟨c, more, rfl, attributeNameChar_of_plain (plain.chars c (by rw [whole]; simp))⟩

/-- A blank and a name leave the reader before the name. -/
theorem gap_name {name : String} (plain : PlainName name) (ready : Bool) (rest : List Char) :
    gap ready (' ' :: name.toList ++ rest) = (true, name.toList ++ rest) := by
  obtain ⟨c, more, whole, nameChar⟩ := plain.exists_cons
  obtain ⟨notBlank, notSlash, -, -⟩ := isAttributeNameChar_iff.1 nameChar
  have blank : Text.isBlank ' ' = true := by decide
  simp [whole, gap, blank, notBlank, notSlash]

/-- Neither the next attribute nor the closing bracket is taken for a value. -/
theorem readValue?_attributeText {attributes : Attributes} (plain : attributes.PlainNames)
    (rest : List Char) : readValue? (attributeText attributes rest) = none := by
  cases attributes with
  | nil => rfl
  | cons entry attributes =>
    obtain ⟨name, value⟩ := entry
    obtain ⟨⟨name, rfl, plainName⟩, -⟩ := plain.exists_name
    obtain ⟨c, more, whole, nameChar⟩ := plainName.exists_cons
    obtain ⟨notBlank, -, notSign, -⟩ := isAttributeNameChar_iff.1 nameChar
    have blank : Text.isBlank ' ' = true := by decide
    rw [attributeText_cons, whole]
    simp [readValue?, blank, notBlank, notSign]

/-- A quoted value is read up to the quote that was written behind it. -/
theorem readValue?_valueText (value : String) (rest : List Char) :
    readValue? (valueText (some value) rest) =
      some ⟨escapeAttribute value.toList, true, rest⟩ := by
  have inside : ∀ c ∈ escapeAttribute value.toList, (c ≠ '"' : Bool) := by
    intro c member
    have notQuote : c ≠ '"' := by
      rintro rfl
      exact quote_notMem_escapeAttribute _ member
    simpa using notQuote
  have stop : ∀ c ∈ ('"' :: rest).head?, ¬ (c ≠ '"' : Bool) := by simp
  have unquoted : ('=' :: '"' :: escapeAttribute value.toList ++ '"' :: rest).dropWhile
      Text.isBlank = '=' :: '"' :: (escapeAttribute value.toList ++ '"' :: rest) := rfl
  have signs : ('"' :: (escapeAttribute value.toList ++ '"' :: rest)).dropWhile (· = '=') =
      '"' :: (escapeAttribute value.toList ++ '"' :: rest) := rfl
  have blanks : ('"' :: (escapeAttribute value.toList ++ '"' :: rest)).dropWhile Text.isBlank =
      '"' :: (escapeAttribute value.toList ++ '"' :: rest) := rfl
  have quote : isQuote '"' = true := rfl
  simp only [valueText, readValue?, unquoted, signs, readValueBehind?, blanks, quote, if_true,
    Text.takeWhile_append_stop inside stop, Text.dropWhile_append_stop inside stop]

/-- What the reader knows of an attribute when it stands before the next one. -/
def readEntry (name : String) (value : Option String) (rest : List Char) : AttributeReading :=
  let ready := value.isSome || endsAdmitting name.toList
  ⟨name.toList, value.map fun value => escapeAttribute value.toList,
    (gap ready rest).1, (gap ready rest).2⟩

theorem readAttribute?_entry {name : String} (plainName : PlainName name)
    (value : Option String) {attributes : Attributes} (plain : attributes.PlainNames)
    (rest : List Char) :
    readAttribute? (name.toList ++ valueText value (attributeText attributes rest)) =
      some (readEntry name value (attributeText attributes rest)) := by
  obtain ⟨c, more, whole, nameChar⟩ := plainName.exists_cons
  have begins : beginsAttribute c = true := by
    obtain ⟨notBlank, notSlash, -, notClosing⟩ := isAttributeNameChar_iff.1 nameChar
    simp [beginsAttribute, notBlank, notSlash, notClosing]
  have chars : ∀ c ∈ more, isAttributeNameChar c := fun c member =>
    attributeNameChar_of_plain
      (plainName.chars c (by rw [whole]; exact List.mem_cons_of_mem _ member))
  have stop : ∀ c ∈ (valueText value (attributeText attributes rest)).head?,
      ¬ isAttributeNameChar c := by
    cases value with
    | none => exact stop_attributeText (by decide) (by decide) attributes rest
    | some value =>
      rintro _ ⟨⟩
      decide
  rw [whole, List.cons_append]
  simp only [readAttribute?, begins, if_true, Text.takeWhile_append_stop chars stop,
    Text.dropWhile_append_stop chars stop]
  cases value with
  | none => simp [valueText, readValue?_attributeText plain, readEntry, whole]
  | some value => simp [readValue?_valueText, readEntry, whole]

/-- An attribute as it is read, before its references are resolved. -/
def writtenEntry (entry : FieldName × Option String) : List Char × Option (List Char) :=
  (renderName entry.1, entry.2.map fun value => escapeAttribute value.toList)

/-- Between the attributes the reader is ready for the next one, so it reads all of them. -/
theorem readAttributes_attributeText {attributes : Attributes} (plain : attributes.PlainNames)
    (ready : Bool) (rest : List Char) :
    readAttributes (gap ready (attributeText attributes rest)).1
      (gap ready (attributeText attributes rest)).2 =
        (attributes.map writtenEntry, '>' :: rest) := by
  induction attributes generalizing ready with
  | nil =>
    have ends : gap ready (attributeText [] rest) = (ready, '>' :: rest) := rfl
    have none : readAttribute? ('>' :: rest) = none := rfl
    rw [ends, readAttributes]
    split
    · split
      · rename_i found
        rw [none] at found
        cases found
      · rfl
    · rfl
  | cons entry attributes ih =>
    obtain ⟨name, value⟩ := entry
    obtain ⟨⟨name, rfl, plainName⟩, others⟩ := plain.exists_name
    have read := readAttribute?_entry plainName value others rest
    rw [attributeText_cons, gap_name plainName, readAttributes, if_pos rfl]
    split
    · rename_i found
      rw [read] at found
      cases found
      simp only [readEntry, ih others]
      rfl
    · rename_i missing
      rw [read] at missing
      cases missing

/-- An attribute as it stands in the token. -/
def tokenEntry (entry : FieldName × Option String) : String × Option String :=
  (entry.1.getD namelessText, entry.2)

theorem finishAttribute_writtenEntry {name : String} (plain : PlainName name)
    (value : Option String) :
    finishAttribute (writtenEntry (some name, value)) = .ok (name, value) := by
  have small : Text.lower name.toList = name.toList := lower_plain plain.chars
  cases value with
  | none => simp [finishAttribute, writtenEntry, renderName, small]
  | some value =>
    simp [finishAttribute, writtenEntry, renderName, small, resolve_escapeAttribute, Except.map]

theorem mapM_finishAttribute {attributes : Attributes} (plain : attributes.PlainNames) :
    (attributes.map writtenEntry).mapM finishAttribute = .ok (attributes.map tokenEntry) := by
  induction attributes with
  | nil => rfl
  | cons entry attributes ih =>
    obtain ⟨name, value⟩ := entry
    obtain ⟨⟨name, rfl, plainName⟩, others⟩ := plain.exists_name
    rw [List.map_cons, List.mapM_cons, finishAttribute_writtenEntry plainName, ih others]
    rfl

/-- Under distinct names each attribute of the token is the first of its name. -/
theorem firstOfEach_tokenEntry {attributes : Attributes} (clean : attributes.Clean) :
    Builder.firstOfEach (attributes.map tokenEntry) = attributes := by
  have named : ∀ entry ∈ attributes, (some (tokenEntry entry).1, entry.2) = entry := by
    rintro ⟨name, value⟩ member
    obtain ⟨name, rfl, -⟩ := clean.2 name (List.mem_map_of_mem member)
    rfl
  rw [Builder.firstOfEach, List.foldl_map]
  have fold := Entries.foldl_setIfAbsent [] attributes clean.1
  rw [List.nil_append] at fold
  refine Eq.trans (List.foldl_ext _ _ _ fun kept entry member => ?_) fold
  exact congrArg (fun e : FieldName × Option String => kept.setIfAbsent e.1 e.2)
    (named entry member)

theorem PlainTag.lower {tag : String} (plain : PlainTag tag) :
    String.ofList (Text.lower tag.toList) = tag := by
  rw [lower_plain fun c member => isPlainNameChar_of_isPlainTagChar (plain.chars c member),
    String.ofList_toList]

theorem PlainTag.beginsWithLetter {tag : String} (plain : PlainTag tag) (rest : List Char) :
    beginsWithLetter (tag.toList ++ rest) = true := by
  obtain ⟨c, more, whole, small⟩ := plain.exists_cons
  simp [Markup.beginsWithLetter, whole, isLetter_of_isSmallLetter small]

/-- A start tag as `renderStartTag` writes it, behind its opening bracket. -/
theorem readStartTag_plain {tag : String} (plain : PlainTag tag) {attributes : Attributes}
    (clean : attributes.Clean) (rest : List Char) :
    readStartTag (tag.toList ++ attributeText attributes rest) =
      .done (some (.startTag tag (attributes.map tokenEntry))) rest := by
  have chars : ∀ c ∈ tag.toList, isTagNameChar c := fun c member =>
    tagNameChar_of_plain (plain.chars c member)
  have stop := stop_attributeText (p := isTagNameChar) (by decide) (by decide) attributes rest
  simp only [readStartTag, Text.takeWhile_append_stop chars stop,
    Text.dropWhile_append_stop chars stop,
    readAttributes_attributeText clean.2, finishStartTag, finishWith,
    mapM_finishAttribute clean.2, plain.lower]

end LiveTemplate.Markup
