import LiveTemplate.Expression.Pattern
import LiveTemplate.Proofs.Expression.Grammar

/-! The pattern of calls and the two cuts at the parentheses. Whatever way the pattern tries first,
a match has the parentheses where the cuts have them, and blanks that it puts beside the name
instead of into it are trimmed anyway. -/
namespace LiveTemplate

namespace Text.Pattern

variable {α : Type} {fits : Char → Bool} {next : List Char → List Char → Option α}
  {text taken left : List Char} {a : α}

theorem fits_of_mem_take {count : Nat} (short : count ≤ (text.takeWhile fits).length) :
    ∀ c ∈ text.take count, fits c = true := by
  intro c member
  rw [← List.takeWhile_append_dropWhile (p := fits) (l := text),
    List.take_append_of_le_length short] at member
  exact List.all_eq_true.mp List.all_takeWhile c (List.mem_of_mem_take member)

theorem length_le_takeWhile (fit : ∀ c ∈ taken, fits c = true) (left : List Char) :
    taken.length ≤ ((taken ++ left).takeWhile fits).length := by
  rw [List.takeWhile_append_of_pos fit, List.length_append]
  exact Nat.le_add_right _ _

theorem exists_of_most (found : most fits next text = some a) : ∃ taken left,
    text = taken ++ left ∧ (∀ c ∈ taken, fits c = true) ∧ next taken left = some a := by
  obtain ⟨count, member, ends⟩ := List.exists_of_findSome?_eq_some found
  rw [List.mem_reverse, List.mem_range] at member
  exact ⟨_, _, (List.take_append_drop count text).symm, fits_of_mem_take (by omega), ends⟩

theorem most_isSome (fit : ∀ c ∈ taken, fits c = true) (ends : (next taken left).isSome) :
    (most fits next (taken ++ left)).isSome := by
  have short := length_le_takeWhile fit left
  refine List.findSome?_isSome_iff.mpr ⟨taken.length, ?_, by simpa using ends⟩
  rw [List.mem_reverse, List.mem_range]
  omega

theorem exists_of_fewest (found : fewest fits next text = some a) : ∃ taken left,
    text = taken ++ left ∧ taken ≠ [] ∧ (∀ c ∈ taken, fits c = true) ∧
      next taken left = some a := by
  obtain ⟨count, member, ends⟩ := List.exists_of_findSome?_eq_some found
  rw [List.mem_range'_1] at member
  refine ⟨_, _, (List.take_append_drop count text).symm, ?_, fits_of_mem_take (by omega), ends⟩
  have inside := (List.takeWhile_prefix fits (l := text)).length_le
  rw [ne_eq, ← List.length_eq_zero_iff, List.length_take]
  omega

theorem fewest_isSome (some : taken ≠ []) (fit : ∀ c ∈ taken, fits c = true)
    (ends : (next taken left).isSome) : (fewest fits next (taken ++ left)).isSome := by
  have short := length_le_takeWhile fit left
  have positive := List.length_pos_iff.mpr some
  refine List.findSome?_isSome_iff.mpr ⟨taken.length, ?_, by simpa using ends⟩
  rw [List.mem_range'_1]
  omega

theorem eq_cons_of_literal {c : Char} {next : List Char → Option α}
    (found : literal c next text = some a) : ∃ left, text = c :: left ∧ next left = some a := by
  cases text with
  | nil => cases found
  | cons d left =>
    by_cases same : d = c
    · rw [literal, if_pos same] at found
      exact ⟨left, by rw [same], found⟩
    · rw [literal, if_neg same] at found
      cases found

theorem literal_cons (c : Char) (next : List Char → Option α) (left : List Char) :
    literal c next (c :: left) = next left := if_pos rfl

end Text.Pattern

namespace Expression.Source

open Text Text.Pattern

variable {text name list : List Char}

/-- A match: blanks, a name, blanks, a list in parentheses, and blanks. -/
structure Matched (text name list : List Char) (before between behind : List Char) : Prop where
  whole : text = before ++ (name ++ (between ++ '(' :: (list ++ ')' :: behind)))
  blankBefore : ∀ c ∈ before, isBlank c
  nonempty : name ≠ []
  nameClear : ∀ c ∈ name, ¬ isParenthesis c
  blankBetween : ∀ c ∈ between, isBlank c
  listClear : ∀ c ∈ list, ¬ isParenthesis c
  blankBehind : ∀ c ∈ behind, isBlank c

theorem clear_of_plain {taken : List Char} (plain : ∀ c ∈ taken, isPlain c = true) :
    ∀ c ∈ taken, ¬ isParenthesis c := by
  simpa [isPlain] using plain

theorem exists_of_groups? (found : groups? text = some (name, list)) :
    ∃ before between behind, Matched text name list before between behind := by
  obtain ⟨before, _, rfl, blankBefore, named⟩ := exists_of_most found
  obtain ⟨name', _, rfl, nonempty, nameClear, apart⟩ := exists_of_fewest named
  obtain ⟨between, _, rfl, blankBetween, opens⟩ := exists_of_most apart
  obtain ⟨_, rfl, inner⟩ := eq_cons_of_literal opens
  obtain ⟨list', _, rfl, listClear, closes⟩ := exists_of_most inner
  obtain ⟨_, rfl, outer⟩ := eq_cons_of_literal closes
  obtain ⟨behind, rest, rfl, blankBehind, ends⟩ := exists_of_most outer
  obtain ⟨rfl, pair⟩ : rest = [] ∧ (name', list') = (name, list) := by
    simpa [atEnd] using ends
  cases pair
  exact ⟨before, between, behind, by simp, blankBefore, nonempty, clear_of_plain nameClear,
    blankBetween, clear_of_plain listClear, blankBehind⟩

theorem groups?_isSome {before between behind : List Char}
    (matched : Matched text name list before between behind) : (groups? text).isSome := by
  have plain {taken : List Char} (clear : ∀ c ∈ taken, ¬ isParenthesis c) :
      ∀ c ∈ taken, isPlain c = true := by simpa [isPlain] using clear
  rw [groups?, matched.whole]
  refine most_isSome matched.blankBefore ?_
  refine fewest_isSome matched.nonempty (plain matched.nameClear) ?_
  refine most_isSome matched.blankBetween ?_
  rw [literal_cons]
  refine most_isSome (plain matched.listClear) ?_
  rw [literal_cons, ← List.append_nil behind]
  refine most_isSome matched.blankBehind ?_
  rfl

theorem Matched.enclosed {before between behind : List Char}
    (matched : Matched text name list before between behind) :
    Enclosed text (before ++ name ++ between) list behind where
  whole := by simp [matched.whole]
  headClear := by
    simp only [List.forall_mem_append]
    exact ⟨⟨fun c member => clear_of_blank (matched.blankBefore c member), matched.nameClear⟩,
      fun c member => clear_of_blank (matched.blankBetween c member)⟩
  innerClear := matched.listClear

theorem CallShape.matched {head inner behind : List Char}
    (shape : CallShape text head inner behind) : Matched text head inner [] [] behind where
  whole := by simp [shape.whole]
  blankBefore := List.forall_mem_nil _
  nonempty := by
    obtain ⟨c, member, -⟩ := shape.named
    exact List.ne_nil_of_mem member
  nameClear := shape.headClear
  blankBetween := List.forall_mem_nil _
  listClear := shape.innerClear
  blankBehind := shape.ended

/-- The cuts at the parentheses read every text as the pattern does. -/
theorem ofList_eq_ofPattern (text : List Char) : ofList text = ofPattern text := by
  unfold ofPattern
  cases found : groups? text with
  | none =>
    refine ofList_of_no_callShape ?_
    rintro ⟨head, inner, behind, shape⟩
    have known := groups?_isSome shape.matched
    rw [found] at known
    cases known
  | some groups =>
    obtain ⟨name, list⟩ := groups
    obtain ⟨before, between, behind, matched⟩ := exists_of_groups? found
    obtain ⟨head, enclosed, trimmed⟩ : ∃ head, Enclosed text head list behind ∧
        trim head = trim name :=
      ⟨_, matched.enclosed, trim_append matched.blankBefore matched.blankBetween⟩
    have ended := allBlank_iff.mpr matched.blankBehind
    by_cases named : trim name = []
    · -- The name is all blank, so the head before the parentheses is.
      have blank : allBlank head = true :=
        allBlank_iff.mpr (trim_eq_nil_iff.mp (trimmed.trans named))
      simp [ofList, parts?_eq_some_iff.mpr enclosed, blank, named]
    · have visible : allBlank head = false := by
        rw [Bool.eq_false_iff, ne_eq, allBlank_iff, ← trim_eq_nil_iff, trimmed]
        exact named
      simp [ofList, parts?_eq_some_iff.mpr enclosed, visible, named, trimmed, ended]

end Expression.Source
end LiveTemplate
