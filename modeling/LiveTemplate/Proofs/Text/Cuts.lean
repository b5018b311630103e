import LiveTemplate.Text.Blank

/-! What cuts leave. A text is trimmed to the part between the blanks at its ends, and split into
the pieces that give it back when they are joined by the separator; both cuts are told by these
rules alone. -/
namespace LiveTemplate.Text

section Stop

variable {p : Char → Bool} {cs rest : List Char} (all : ∀ c ∈ cs, p c)
  (stop : ∀ c ∈ rest.head?, ¬ p c)

include all stop

theorem takeWhile_append_stop : (cs ++ rest).takeWhile p = cs := by
  rw [List.takeWhile_append_of_pos all]
  cases rest with
  | nil => simp
  | cons c rest => rw [List.takeWhile_cons_of_neg (stop c rfl), List.append_nil]

theorem dropWhile_append_stop : (cs ++ rest).dropWhile p = rest := by
  rw [List.dropWhile_append_of_pos all]
  cases rest with
  | nil => rfl
  | cons c rest => rw [List.dropWhile_cons_of_neg (stop c rfl)]

end Stop

variable {text core before after : List Char}

theorem allBlank_iff : allBlank text = true ↔ ∀ c ∈ text, isBlank c = true := List.all_eq_true

/-- A text without blanks at its ends. -/
structure Bare (text : List Char) : Prop where
  first : ∀ c ∈ text.head?, ¬ isBlank c
  last : ∀ c ∈ text.getLast?, ¬ isBlank c

/-- The text is `core` with blanks around it, and `core` has none at its ends. -/
structure TrimsTo (text core : List Char) : Prop where
  bare : Bare core
  around : ∃ before after, text = before ++ core ++ after ∧
    (∀ c ∈ before, isBlank c) ∧ ∀ c ∈ after, isBlank c

theorem head_dropWhile (p : Char → Bool) (text : List Char) :
    ∀ c ∈ (text.dropWhile p).head?, ¬ p c := by
  intro c first
  have := List.head?_dropWhile_not p text
  rw [Option.mem_def.mp first] at this
  simp [this]

theorem getLast?_trimEnd (text : List Char) : ∀ c ∈ (trimEnd text).getLast?, ¬ isBlank c := by
  rw [trimEnd, List.getLast?_reverse]
  exact head_dropWhile isBlank _

theorem exists_eq_trimEnd_append (text : List Char) :
    ∃ after, text = trimEnd text ++ after ∧ ∀ c ∈ after, isBlank c := by
  refine ⟨(text.reverse.takeWhile isBlank).reverse, ?_, ?_⟩
  · rw [trimEnd, ← List.reverse_append, List.takeWhile_append_dropWhile, List.reverse_reverse]
  · intro c member
    exact List.all_eq_true.mp List.all_takeWhile c (List.mem_reverse.mp member)

theorem trimsTo_trim (text : List Char) : TrimsTo text (trim text) := by
  obtain ⟨after, whole, blank⟩ := exists_eq_trimEnd_append (trimStart text)
  refine ⟨⟨?_, getLast?_trimEnd _⟩, text.takeWhile isBlank, after, ?_, ?_, blank⟩
  · intro c first
    refine head_dropWhile isBlank text c ?_
    rw [← trimStart, whole, List.head?_append]
    rw [Option.mem_def, trim] at first
    rw [first]
    rfl
  · rw [List.append_assoc]
    show text = _ ++ (trimEnd (trimStart text) ++ after)
    rw [← whole, trimStart, List.takeWhile_append_dropWhile]
  · exact List.all_eq_true.mp List.all_takeWhile

theorem trim_of_bare (bare : Bare text) : trim text = text := by
  have start : trimStart text = text := dropWhile_append_stop (List.forall_mem_nil _) bare.first
  rw [trim, start, trimEnd, ← List.nil_append text.reverse,
    dropWhile_append_stop (List.forall_mem_nil _) (by simpa using bare.last), List.reverse_reverse]

/-- Blanks around a text do not matter to what it is trimmed to. -/
theorem trim_append (blankBefore : ∀ c ∈ before, isBlank c) (blankAfter : ∀ c ∈ after, isBlank c) :
    trim (before ++ text ++ after) = trim text := by
  have atEnd (cs : List Char) : trimEnd (cs ++ after) = trimEnd cs := by
    rw [trimEnd, trimEnd, List.reverse_append,
      List.dropWhile_append_of_pos fun c member => blankAfter c (List.mem_reverse.mp member)]
  rw [trim, trim, trimStart, trimStart, List.append_assoc, List.dropWhile_append_of_pos blankBefore,
    List.dropWhile_append]
  split
  · rename_i all
    have nothing : (after ++ []).dropWhile isBlank = [] :=
      dropWhile_append_stop blankAfter (by simp)
    rw [List.append_nil] at nothing
    rw [List.isEmpty_iff.mp all, nothing]
  · exact atEnd _

theorem trim_eq_iff : trim text = core ↔ TrimsTo text core := by
  constructor
  · rintro rfl
    exact trimsTo_trim text
  · rintro ⟨bare, before, after, rfl, blankBefore, blankAfter⟩
    rw [trim_append blankBefore blankAfter, trim_of_bare bare]

theorem bare_nil : Bare [] := ⟨by simp, by simp⟩

theorem mem_of_mem_trim {c : Char} (member : c ∈ trim text) : c ∈ text := by
  obtain ⟨-, before, after, whole, -⟩ := trimsTo_trim text
  rw [whole]
  exact List.mem_append_left _ (List.mem_append_right _ member)

theorem trim_eq_nil_iff : trim text = [] ↔ ∀ c ∈ text, isBlank c := by
  constructor
  · intro nothing
    obtain ⟨before, after, whole, blankBefore, blankAfter⟩ := (trim_eq_iff.mp nothing).around
    rw [whole, List.append_nil]
    exact List.forall_mem_append.mpr ⟨blankBefore, blankAfter⟩
  · exact fun blank => trim_eq_iff.mpr ⟨bare_nil, text, [], by simp, blank, List.forall_mem_nil _⟩

/-- The pieces of a text between separators: joined by the separator they are the text. -/
structure SplitsTo (separator : Char) (text : List Char) (pieces : List (List Char)) : Prop where
  nonempty : pieces ≠ []
  apart : ∀ piece ∈ pieces, separator ∉ piece
  joined : [separator].intercalate pieces = text

/-- Every piece but the first stands behind a separator. -/
theorem intercalate_cons (separator piece : List Char) (pieces : List (List Char)) :
    separator.intercalate (piece :: pieces) = piece ++ pieces.flatMap (separator ++ ·) := by
  induction pieces generalizing piece with
  | nil => simp
  | cons second pieces ih => rw [List.intercalate_cons_cons, ih, List.flatMap_cons]; simp

theorem mem_intercalate_of_mem {separator piece : List Char} {pieces : List (List Char)} {c : Char}
    (member : piece ∈ pieces) (inside : c ∈ piece) : c ∈ separator.intercalate pieces := by
  cases pieces with
  | nil => cases member
  | cons first pieces =>
    rw [intercalate_cons, List.mem_append, List.mem_flatMap]
    rcases List.mem_cons.mp member with rfl | later
    · exact .inl inside
    · exact .inr ⟨piece, later, List.mem_append_right _ inside⟩

theorem splitOn_eq (separator : Char) (text : List Char) :
    splitOn separator text = text.splitOn separator := by
  rw [List.splitOn_eq_splitOnP]
  induction text with
  | nil => rfl
  | cons c text ih =>
    rw [splitOn, List.splitOnP_cons_eq_if_modifyHead, ih]
    by_cases here : c = separator
    · simp [here]
    · cases pieces : text.splitOnP (· == separator) with
      | nil => exact absurd pieces (List.splitOnP_ne_nil _ _)
      | cons piece rest => simp [here]

theorem separator_notMem_splitOn {separator : Char} {piece : List Char}
    (member : piece ∈ splitOn separator text) : separator ∉ piece := by
  induction text generalizing piece with
  | nil => simp_all [splitOn]
  | cons c text ih =>
    rw [splitOn] at member
    split at member
    · rcases List.mem_cons.mp member with rfl | later
      · simp
      · exact ih later
    · rename_i other
      split at member
      · rcases List.mem_singleton.mp member with rfl
        simpa using Ne.symm other
      · rename_i first rest pieces
        rw [pieces] at ih
        rcases List.mem_cons.mp member with rfl | later
        · have := ih List.mem_cons_self
          simp [this, Ne.symm other]
        · exact ih (List.mem_cons_of_mem _ later)

theorem splitOn_eq_iff {separator : Char} {pieces : List (List Char)} :
    splitOn separator text = pieces ↔ SplitsTo separator text pieces := by
  constructor
  · rintro rfl
    refine ⟨?_, fun piece => separator_notMem_splitOn, ?_⟩
    · rw [splitOn_eq]
      exact List.splitOn_ne_nil _ _
    · rw [splitOn_eq]
      exact List.intercalate_splitOn _
  · rintro ⟨nonempty, apart, rfl⟩
    rw [splitOn_eq]
    exact List.splitOn_intercalate _ apart nonempty

end LiveTemplate.Text
