import LiveTemplate.Proofs.Markup.Tags
import Mathlib.Data.List.TakeWhile

/-! Where the constructs end that go on to a mark of their own: end tags, comments and raw text. A
search meets the mark that was written, since none begins earlier in clean text. -/
namespace LiveTemplate

namespace Text

/-- The first place that is found lies behind a text in which nothing is found. -/
theorem breakWhere?_append {α : Type} {found? : List Char → Option α} {before rest : List Char}
    {a : α} (nowhere : ∀ pre c post, before = pre ++ c :: post → found? (c :: post ++ rest) = none)
    (here : found? rest = some a) : breakWhere? found? (before ++ rest) = some (before, a) := by
  induction before with
  | nil =>
    cases rest with
    | nil => simp [breakWhere?, here]
    | cons c rest => simp [breakWhere?, here]
  | cons c before ih =>
    have first : found? (c :: (before ++ rest)) = none := nowhere [] c before rfl
    have later := ih fun pre d post whole => nowhere (c :: pre) d post (by rw [whole]; rfl)
    simp [breakWhere?, first, later]

end Text

namespace Markup

theorem stripHead?_cons_of_ne {c d : Char} (other : c ≠ d) (head text : List Char) :
    Text.stripHead? (c :: head) (d :: text) = none := by
  rw [Text.stripHead?, if_neg other]

/-- Up to the next closing bracket. -/
theorem breakAt?_closing {inner : List Char} (noBracket : '>' ∉ inner) (rest : List Char) :
    Text.breakAt? ['>'] (inner ++ '>' :: rest) = some (inner, rest) := by
  refine Text.breakWhere?_append ?_ (Text.stripHead?_append ['>'] rest)
  rintro pre c post rfl
  refine stripHead?_cons_of_ne ?_ _ _
  rintro rfl
  exact noBracket (by simp)

theorem readEndTag_plain {tag : String} (plain : PlainTag tag) (place : Text.Position)
    (rest : List Char) :
    readEndTag place (tag.toList ++ '>' :: rest) = .done (some (.endTag tag place)) rest := by
  have chars : ∀ c ∈ tag.toList, isEndNameChar c := fun c member =>
    endNameChar_of_plain (plain.chars c member)
  have noBracket : '>' ∉ tag.toList := fun member => absurd (chars _ member) (by decide)
  have start : Text.trimStart tag.toList = tag.toList := by
    obtain ⟨c, more, whole, -⟩ := plain.exists_cons
    have nameChar := attributeNameChar_of_plain
      (isPlainNameChar_of_isPlainTagChar (plain.chars c (by rw [whole]; simp)))
    simp [Text.trimStart, whole, (isAttributeNameChar_iff.1 nameChar).1]
  have letter : beginsWithLetter tag.toList = true := by
    simpa using plain.beginsWithLetter []
  have name : plainEndName? tag.toList = some tag.toList := by
    have all : tag.toList.takeWhile isEndNameChar = tag.toList :=
      List.takeWhile_eq_self_iff.2 chars
    have none : tag.toList.dropWhile isEndNameChar = [] := List.dropWhile_eq_nil_iff.2 chars
    simp [plainEndName?, start, letter, all, none, Text.allBlank]
  simp only [readEndTag, breakAt?_closing noBracket, endToken, name, plain.lower]

/-- Without a closing bracket of its own a text does not close what stands before it. -/
theorem closingBracket?_eq_none (inner : List Char) (noBracket : '>' ∉ inner)
    (rest : List Char) : closingBracket? (inner ++ '-' :: rest) = none := by
  induction inner with
  | nil => rfl
  | cons c inner ih =>
    rw [List.mem_cons, not_or] at noBracket
    cases blank : Text.isBlank c with
    | true => simpa [closingBracket?, blank] using ih noBracket.2
    | false => simp [closingBracket?, blank, Text.stripHead?, noBracket.1]

theorem commentEnd?_eq_none {inner : List Char} {c : Char} (noBracket : '>' ∉ c :: inner)
    (rest : List Char) : commentEnd? (c :: inner ++ '-' :: '-' :: '>' :: rest) = none := by
  have close (text : List Char) (closed : closingBracket? text = none) :
      commentEnd? ('-' :: '-' :: text) = none := closed
  by_cases first : c = '-'
  · subst first
    rcases inner with - | ⟨d, inner⟩
    · exact close _ (closingBracket?_eq_none [] (by simp) _)
    · by_cases second : d = '-'
      · subst second
        refine close _ (closingBracket?_eq_none inner ?_ _)
        simpa using noBracket
      · simp [commentEnd?, Text.stripHead?, Ne.symm second]
  · simp [commentEnd?, Text.stripHead?, Ne.symm first]

theorem readDeclaration_comment {data : List Char} (clean : '>' ∉ data) (rest : List Char) :
    readDeclaration ('-' :: '-' :: data ++ '-' :: '-' :: '>' :: rest) =
      .done (some (.comment (String.ofList data))) rest := by
  have ends : Text.breakWhere? commentEnd? (data ++ '-' :: '-' :: '>' :: rest) =
      some (data, rest) := by
    refine Text.breakWhere?_append ?_ rfl
    rintro pre c post rfl
    refine commentEnd?_eq_none ?_ rest
    exact fun member => clean (List.mem_append_right _ member)
  simp [readDeclaration, readTo, ends, commentToken]

/-- An end of raw text begins with a bracket and a slash. -/
theorem rawEnd?_eq_none {name text : List Char} (other : ¬ ['<', '/'] <+: text) :
    rawEnd? name text = none := by
  unfold rawEnd?
  split
  · exact absurd (by simp) other
  · rfl

theorem isRawText_cases {tag : String} (raw : isRawText tag) : tag = "script" ∨ tag = "style" := by
  simpa [isRawText, rawTextTags] using raw

theorem rawEnd?_plain {tag : String} (raw : isRawText tag) (rest : List Char) :
    ∃ text, rawEnd? tag.toList ('<' :: '/' :: tag.toList ++ '>' :: rest) =
      some ⟨text, true, rest⟩ := by
  rcases isRawText_cases raw with rfl | rfl
  · exact ⟨_, rfl⟩
  · exact ⟨_, rfl⟩

/-- Raw text that begins no end tag goes on to the end tag that was written. -/
theorem breakWhere?_rawEnd {tag : String} (raw : isRawText tag) {data : List Char}
    (clean : ¬ ['<', '/'] <:+: data) (rest : List Char) :
    ∃ text, Text.breakWhere? (rawEnd? tag.toList)
        (data ++ '<' :: '/' :: tag.toList ++ '>' :: rest) = some (data, ⟨text, true, rest⟩) := by
  obtain ⟨text, here⟩ := rawEnd?_plain raw rest
  refine ⟨text, ?_⟩
  rw [List.append_assoc]
  refine Text.breakWhere?_append ?_ here
  rintro pre c post rfl
  refine rawEnd?_eq_none fun starts => ?_
  cases post with
  | nil =>
    -- The last character stands before the bracket of the end tag, not before a slash.
    simp at starts
  | cons d post =>
    refine clean ⟨pre, post, ?_⟩
    simp at starts
    simp [← starts.1, ← starts.2]

end Markup
end LiveTemplate
