import LiveTemplate.Expression.Source
import LiveTemplate.Proofs.Text.Cuts
import Mathlib.Data.List.Forall2

/-! The grammar of calls. A text is a call exactly if it is a name, a list in parentheses and blanks
behind them, with no other parenthesis; which name and list are meant is then settled by the text
alone, and blanks around it do not matter. All other texts are keys. -/
namespace LiveTemplate.Expression.Source

open Text

variable {text head inner behind : List Char}

/-- A text with exactly one pair of parentheses, one opened before it is closed. -/
structure Enclosed (text head inner behind : List Char) : Prop where
  whole : text = head ++ '(' :: (inner ++ ')' :: behind)
  headClear : ∀ c ∈ head, ¬ isParenthesis c
  innerClear : ∀ c ∈ inner, ¬ isParenthesis c

/-- A call: there is a name before the parentheses, and nothing behind them. -/
structure CallShape (text head inner behind : List Char) : Prop
    extends Enclosed text head inner behind where
  named : ∃ c ∈ head, ¬ isBlank c
  ended : ∀ c ∈ behind, isBlank c

theorem clear_of_mem_takeWhile {text : List Char} :
    ∀ c ∈ text.takeWhile (!isParenthesis ·), ¬ isParenthesis c := by
  intro c member
  have := List.all_eq_true.mp List.all_takeWhile c member
  simpa using this

/-- Before a parenthesis the text without parentheses ends. -/
theorem cut_at_parenthesis (mark : Char) (parenthesis : isParenthesis mark)
    (clear : ∀ c ∈ head, ¬ isParenthesis c) (behind : List Char) :
    (head ++ mark :: behind).takeWhile (!isParenthesis ·) = head ∧
      (head ++ mark :: behind).dropWhile (!isParenthesis ·) = mark :: behind := by
  have clear : ∀ c ∈ head, (!isParenthesis c) = true := by simpa using clear
  have stop : ∀ c ∈ (mark :: behind).head?, ¬ (!isParenthesis c) = true := by
    simpa using parenthesis
  exact ⟨takeWhile_append_stop clear stop, dropWhile_append_stop clear stop⟩

theorem parts?_eq_some_iff :
    parts? text = some (head, inner, behind) ↔ Enclosed text head inner behind := by
  constructor
  · intro found
    unfold parts? at found
    split at found
    · rename_i rest opens
      split at found
      · rename_i rest' closes
        cases found
        refine ⟨?_, clear_of_mem_takeWhile, clear_of_mem_takeWhile⟩
        rw [← closes, List.takeWhile_append_dropWhile, ← opens, List.takeWhile_append_dropWhile]
      · cases found
    · cases found
  · rintro ⟨rfl, headClear, innerClear⟩
    obtain ⟨before, opens⟩ := cut_at_parenthesis '(' rfl headClear (inner ++ ')' :: behind)
    obtain ⟨between, closes⟩ := cut_at_parenthesis ')' rfl innerClear behind
    simp only [parts?, opens, closes, before, between]

/-- The parameters in a list: a blank list has none, and in any other the pieces between commas are
parameters without the blanks around them. -/
inductive Lists (inner : List Char) : List String → Prop where
  | blank : (∀ c ∈ inner, isBlank c) → Lists inner []
  | pieces {cut : List (List Char)} {parameters : List String} : (∃ c ∈ inner, ¬ isBlank c) →
      SplitsTo ',' inner cut → List.Forall₂ (fun piece p => TrimsTo piece p.toList) cut parameters →
      Lists inner parameters

theorem eq_ofList_trim_iff {name : String} :
    String.ofList (trim text) = name ↔ TrimsTo text name.toList := by
  rw [← trim_eq_iff, ← String.toList_inj, String.toList_ofList]

theorem map_trim_eq_iff {cut : List (List Char)} {parameters : List String} :
    (cut.map fun piece => String.ofList (trim piece)) = parameters ↔
      List.Forall₂ (fun piece p => TrimsTo piece p.toList) cut parameters := by
  simp only [← eq_ofList_trim_iff]
  rw [← List.forall₂_map_left_iff, List.forall₂_eq_eq_eq]

theorem parameters_eq_iff {ps : List String} : parameters inner = ps ↔ Lists inner ps := by
  unfold parameters
  by_cases blank : ∀ c ∈ inner, isBlank c
  · rw [if_pos (allBlank_iff.mpr blank)]
    constructor
    · rintro rfl
      exact .blank blank
    · rintro (- | ⟨⟨c, member, visible⟩, -, -⟩)
      · rfl
      · exact absurd (blank c member) visible
  · rw [if_neg (mt allBlank_iff.mp blank), map_trim_eq_iff]
    have visible : ∃ c ∈ inner, ¬ isBlank c := by simpa using blank
    constructor
    · exact .pieces visible (splitOn_eq_iff.mp rfl)
    · rintro (blank' | ⟨-, split, trimmed⟩)
      · exact absurd blank' blank
      · rwa [splitOn_eq_iff.mpr split]

theorem named_and_ended_iff : (!allBlank head && allBlank behind) = true ↔
    (∃ c ∈ head, ¬ isBlank c) ∧ ∀ c ∈ behind, isBlank c := by
  simp [allBlank]

theorem ofList_of_callShape (shape : CallShape text head inner behind) :
    ofList text = .call (String.ofList (trim head)) (parameters inner) := by
  simp only [ofList, parts?_eq_some_iff.mpr shape.toEnclosed,
    named_and_ended_iff.mpr ⟨shape.named, shape.ended⟩, if_true]

theorem ofList_of_no_callShape
    (shapeless : ¬ ∃ head inner behind, CallShape text head inner behind) :
    ofList text = .key (String.ofList (trim text)) := by
  unfold ofList
  split
  · rename_i head inner behind found
    refine if_neg fun shaped => shapeless ⟨head, inner, behind, ?_⟩
    obtain ⟨named, ended⟩ := named_and_ended_iff.mp shaped
    exact ⟨parts?_eq_some_iff.mp found, named, ended⟩
  · rfl

theorem ofList_eq_call_iff {f : String} {ps : List String} : ofList text = .call f ps ↔
    ∃ head inner behind, CallShape text head inner behind ∧ TrimsTo head f.toList ∧
      Lists inner ps := by
  constructor
  · intro parsed
    by_cases shaped : ∃ head inner behind, CallShape text head inner behind
    · obtain ⟨head, inner, behind, shape⟩ := shaped
      rw [ofList_of_callShape shape, Source.call.injEq] at parsed
      exact ⟨head, inner, behind, shape, eq_ofList_trim_iff.mp parsed.1,
        parameters_eq_iff.mp parsed.2⟩
    · rw [ofList_of_no_callShape shaped] at parsed
      cases parsed
  · rintro ⟨head, inner, behind, shape, name, list⟩
    rw [ofList_of_callShape shape, eq_ofList_trim_iff.mpr name, parameters_eq_iff.mpr list]

theorem ofList_eq_key_iff {k : String} : ofList text = .key k ↔
    (¬ ∃ head inner behind, CallShape text head inner behind) ∧ TrimsTo text k.toList := by
  constructor
  · intro parsed
    by_cases shaped : ∃ head inner behind, CallShape text head inner behind
    · obtain ⟨head, inner, behind, shape⟩ := shaped
      rw [ofList_of_callShape shape] at parsed
      cases parsed
    · rw [ofList_of_no_callShape shaped, Source.key.injEq] at parsed
      exact ⟨shaped, eq_ofList_trim_iff.mp parsed⟩
  · rintro ⟨shapeless, name⟩
    rw [ofList_of_no_callShape shapeless, eq_ofList_trim_iff.mpr name]

section Blanks

variable {before after : List Char} (blankBefore : ∀ c ∈ before, isBlank c)
  (blankAfter : ∀ c ∈ after, isBlank c)

theorem clear_of_blank {c : Char} (blank : isBlank c) : ¬ isParenthesis c := by
  intro parenthesis
  obtain rfl | rfl : c = '(' ∨ c = ')' := by simpa [isParenthesis] using parenthesis
  all_goals exact absurd blank (by decide)

include blankBefore in
theorem Enclosed.without_blanks_before (enclosed : Enclosed (before ++ text) head inner behind) :
    ∃ rest, head = before ++ rest ∧ Enclosed text rest inner behind := by
  obtain ⟨whole, headClear, innerClear⟩ := enclosed
  obtain ⟨rest, rfl, split⟩ | ⟨rest, rfl, split⟩ := List.append_eq_append_iff.mp whole
  · have clear : ∀ c ∈ rest, ¬ isParenthesis c := (List.forall_mem_append.mp headClear).2
    exact ⟨rest, rfl, split, clear, innerClear⟩
  · cases rest with
    | nil => exact ⟨[], by simp, split.symm, List.forall_mem_nil _, innerClear⟩
    | cons mark rest =>
      obtain rfl := (List.cons.inj split).1
      exact absurd (blankBefore '(' (by simp)) (by decide)

include blankAfter in
theorem Enclosed.without_blanks_after (enclosed : Enclosed (text ++ after) head inner behind) :
    ∃ rest, behind = rest ++ after ∧ Enclosed text head inner rest := by
  obtain ⟨whole, headClear, innerClear⟩ := enclosed
  have closed : text ++ after = (head ++ '(' :: inner ++ [')']) ++ behind := by simpa using whole
  obtain ⟨rest, split, rfl⟩ | ⟨rest, rfl, rfl⟩ := List.append_eq_append_iff.mp closed
  · rcases List.eq_nil_or_concat rest with rfl | ⟨front, mark, rfl⟩
    · exact ⟨[], rfl, by simpa using split.symm, headClear, innerClear⟩
    · rw [List.concat_eq_append, ← List.append_assoc] at split
      obtain rfl := (List.cons.inj (List.append_inj' split rfl).2).1
      exact absurd (blankAfter ')' (by simp)) (by decide)
  · exact ⟨rest, rfl, by simp, headClear, innerClear⟩

include blankBefore blankAfter

/-- Blanks around a text belong to the name before the parentheses and to the blanks behind them. -/
theorem callShape_append_iff : CallShape (before ++ text ++ after) head inner behind ↔
    ∃ name rest, head = before ++ name ∧ behind = rest ++ after ∧
      CallShape text name inner rest := by
  constructor
  · rintro ⟨enclosed, ⟨c, member, visible⟩, ended⟩
    obtain ⟨rest, rfl, shorter⟩ := enclosed.without_blanks_after blankAfter
    obtain ⟨name, rfl, bare⟩ := shorter.without_blanks_before blankBefore
    refine ⟨name, rest, rfl, rfl, bare, ⟨c, ?_, visible⟩, (List.forall_mem_append.mp ended).1⟩
    rcases List.mem_append.mp member with outside | inside
    · exact absurd (blankBefore c outside) visible
    · exact inside
  · rintro ⟨name, rest, rfl, rfl, ⟨⟨rfl, headClear, innerClear⟩, ⟨c, member, visible⟩, ended⟩⟩
    refine ⟨⟨by simp, ?_, innerClear⟩, ⟨c, List.mem_append_right _ member, visible⟩, ?_⟩
    · exact List.forall_mem_append.mpr
        ⟨fun c member => clear_of_blank (blankBefore c member), headClear⟩
    · exact List.forall_mem_append.mpr ⟨ended, blankAfter⟩

theorem ofList_append : ofList (before ++ text ++ after) = ofList text := by
  by_cases shaped : ∃ head inner behind, CallShape text head inner behind
  · obtain ⟨head, inner, behind, shape⟩ := shaped
    have padded : CallShape (before ++ text ++ after) (before ++ head) inner (behind ++ after) :=
      (callShape_append_iff blankBefore blankAfter).mpr ⟨head, behind, rfl, rfl, shape⟩
    have name : trim (before ++ head) = trim head := by
      simpa using trim_append blankBefore (List.forall_mem_nil _)
    rw [ofList_of_callShape padded, ofList_of_callShape shape, name]
  · rw [ofList_of_no_callShape shaped, ofList_of_no_callShape, trim_append blankBefore blankAfter]
    rintro ⟨head, inner, behind, padded⟩
    obtain ⟨name, rest, -, -, shape⟩ := (callShape_append_iff blankBefore blankAfter).mp padded
    exact shaped ⟨name, inner, rest, shape⟩

end Blanks

/-- A text is a call exactly if it has the shape of one, with the trimmed name before the
parentheses as its function and the list between them as its parameters; otherwise it is the key
that it is trimmed to, and it is never both. Blanks around a text do not change what it is. -/
theorem parse_by_shape (text : String) :
    (∀ f ps, parse text = .call f ps ↔
      ∃ head inner behind, CallShape text.toList head inner behind ∧ TrimsTo head f.toList ∧
        Lists inner ps) ∧
    (∀ k, parse text = .key k ↔
      (¬ ∃ head inner behind, CallShape text.toList head inner behind) ∧
        TrimsTo text.toList k.toList) ∧
    ((∃ k, parse text = .key k) ↔ ¬ ∃ f ps, parse text = .call f ps) ∧
    ∀ padded : String, (∃ before after, padded.toList = before ++ text.toList ++ after ∧
      (∀ c ∈ before, isBlank c) ∧ ∀ c ∈ after, isBlank c) → parse padded = parse text := by
  refine ⟨fun f ps => ofList_eq_call_iff, fun k => ofList_eq_key_iff, ?_, ?_⟩
  · cases parse text <;> simp
  · rintro padded ⟨before, after, whole, blankBefore, blankAfter⟩
    rw [parse, whole]
    exact ofList_append blankBefore blankAfter

/-- A name with a blank inside, and a list with an empty piece. -/
def spacedCall : String := " fmt x ( a,,b ) "

theorem spacedCall_shape :
    CallShape spacedCall.toList " fmt x ".toList " a,,b ".toList " ".toList where
  toEnclosed := parts?_eq_some_iff.mp (by decide)
  named := ⟨'f', by decide, by decide⟩
  ended := allBlank_iff.mp (by decide)

theorem spacedCall_by_shape : parse spacedCall = .call "fmt x" ["a", "", "b"] ∧
    ¬ (∃ k, parse spacedCall = .key k) ∧
    parse "\t fmt x ( a,,b ) \u3000" = .call "fmt x" ["a", "", "b"] := by
  obtain ⟨calls, -, one, padded⟩ := parse_by_shape spacedCall
  have parsed : parse spacedCall = .call "fmt x" ["a", "", "b"] := (calls _ _).mpr
    ⟨_, _, _, spacedCall_shape, trim_eq_iff.mp (by decide), parameters_eq_iff.mp (by decide)⟩
  refine ⟨parsed, fun key => one.mp key ⟨_, _, parsed⟩, ?_⟩
  rw [← parsed]
  exact padded _ ⟨['\t'], ['\u3000'], by decide, allBlank_iff.mp (by decide),
    allBlank_iff.mp (by decide)⟩

end LiveTemplate.Expression.Source
