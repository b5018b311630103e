import LiveTemplate.Proofs.Placeholder.Placement

/-! The scan as two searches. From a place on, the first opening delimiter and then the first
closing one that leaves room for an expression make the next placeholder; where either is missing
there are no more. Together with the gaps between them the placeholders make up the text. -/
namespace LiveTemplate

namespace Text

/-- The first place from `start` on at which `pattern` stands. -/
def firstFrom? (pattern text : List Char) (start : Nat) : Option Nat :=
  (List.range' start (text.length + 1 - start)).find? fun place =>
    pattern.isPrefixOf (text.drop place)

variable {pattern text : List Char} {start place : Nat}

theorem firstFrom?_eq_some_iff : firstFrom? pattern text start = some place ↔
    start ≤ place ∧ place ≤ text.length ∧ pattern <+: text.drop place ∧
      ∀ k, start ≤ k → k < place → ¬ pattern <+: text.drop k := by
  simp only [firstFrom?, List.find?_range'_eq_some, List.isPrefixOf_iff_prefix, List.mem_range'_1,
    Bool.not_eq_true', Bool.eq_false_iff, ne_eq]
  constructor
  · rintro ⟨stands, ⟨le, lt⟩, first⟩
    exact ⟨le, by omega, stands, first⟩
  · rintro ⟨le, inside, stands, first⟩
    exact ⟨stands, ⟨le, by omega⟩, first⟩

theorem firstFrom?_eq_none_iff : firstFrom? pattern text start = none ↔
    ∀ k, start ≤ k → k ≤ text.length → ¬ pattern <+: text.drop k := by
  simp only [firstFrom?, List.find?_range'_eq_none, List.isPrefixOf_iff_prefix,
    Bool.not_eq_true', Bool.eq_false_iff, ne_eq]
  constructor
  · intro absent k le inside
    exact absent k le (by omega)
  · intro absent k le lt
    exact absent k le (by omega)

theorem firstFrom?_of_stands (inside : start ≤ text.length)
    (stands : pattern <+: text.drop start) : firstFrom? pattern text start = some start :=
  firstFrom?_eq_some_iff.mpr ⟨Nat.le_refl _, inside, stands, fun k le lt => by omega⟩

/-- Where the pattern does not stand, the search goes on one place later. -/
theorem firstFrom?_succ (absent : ¬ pattern <+: text.drop start) :
    firstFrom? pattern text start = firstFrom? pattern text (start + 1) := by
  have later {k : Nat} (le : start ≤ k) (stands : pattern <+: text.drop k) : start + 1 ≤ k := by
    rcases Nat.lt_or_eq_of_le le with lt | rfl
    · exact lt
    · exact absurd stands absent
  cases found : firstFrom? pattern text (start + 1) with
  | none =>
    rw [firstFrom?_eq_none_iff] at found ⊢
    exact fun k le inside stands => found k (later le stands) inside stands
  | some place =>
    rw [firstFrom?_eq_some_iff] at found ⊢
    obtain ⟨le, inside, stands, first⟩ := found
    exact ⟨by omega, inside, stands, fun k le lt here => first k (later le here) lt here⟩

theorem firstFrom?_beyond (beyond : text.length < start) : firstFrom? pattern text start = none :=
  firstFrom?_eq_none_iff.mpr fun k le inside => by omega

/-- What is not found is not found later either. -/
theorem firstFrom?_of_none {later : Nat} (le : start ≤ later)
    (absent : firstFrom? pattern text start = none) : firstFrom? pattern text later = none := by
  rw [firstFrom?_eq_none_iff] at absent ⊢
  exact fun k after inside => absent k (Nat.le_trans le after) inside

theorem fits_of_stands (inside : place ≤ text.length) (stands : pattern <+: text.drop place) :
    place + pattern.length ≤ text.length := by
  have := stands.length_le
  rw [List.length_drop] at this
  omega

theorem stripHead?_eq_none_iff : stripHead? pattern text = none ↔ ¬ pattern <+: text := by
  rw [Option.eq_none_iff_forall_ne_some]
  constructor
  · rintro absent ⟨rest, whole⟩
    exact absent rest (stripHead?_eq_some_iff.mpr whole.symm)
  · intro absent rest found
    exact absent ⟨rest, (stripHead?_eq_some_iff.mp found).symm⟩

theorem stripHead?_drop (stands : pattern <+: text.drop start) :
    stripHead? pattern (text.drop start) = some (text.drop (start + pattern.length)) := by
  rw [stripHead?_eq_some_iff, ← List.drop_drop]
  exact (List.prefix_iff_eq_append.mp stands).symm

end Text

namespace Placeholder

open Text

variable {opening closing text : List Char} {start place : Nat}

theorem slice_self (text : List Char) (start : Nat) : slice text start start = [] := by
  simp [slice]

theorem lt_length_of_drop {c : Char} {rest : List Char} (here : text.drop start = c :: rest) :
    start < text.length := by
  have := congrArg List.length here
  rw [List.length_drop, List.length_cons] at this
  omega

theorem drop_succ {c : Char} {rest : List Char} (here : text.drop start = c :: rest) :
    text.drop (start + 1) = rest := by
  rw [← List.drop_drop, here]
  rfl

theorem slice_cons {c : Char} {rest : List Char} (here : text.drop start = c :: rest)
    (lt : start < place) : slice text start place = c :: slice text (start + 1) place := by
  have size : place - start = place - (start + 1) + 1 := by omega
  rw [slice, slice, here, drop_succ here, size, List.take_succ_cons]

theorem breakAt?_here (stands : closing <+: text.drop start) :
    breakAt? closing (text.drop start) = some ([], text.drop (start + closing.length)) := by
  have found := stripHead?_drop stands
  cases rest : text.drop start with
  | nil => rw [rest] at found; simp [breakAt?, breakWhere?, found]
  | cons c behind => rw [rest] at found; simp [breakAt?, breakWhere?, found]

/-- Breaking a text at a pattern is searching for the pattern from where the text begins. -/
theorem breakAt?_drop (inside : start ≤ text.length) :
    breakAt? closing (text.drop start) = (firstFrom? closing text start).map fun place =>
      (slice text start place, text.drop (place + closing.length)) := by
  induction rest : text.drop start generalizing start with
  | nil =>
    by_cases stands : closing <+: text.drop start
    · rw [← rest, breakAt?_here stands, firstFrom?_of_stands inside stands, Option.map_some,
        slice_self]
    · have size : text.length ≤ start := List.drop_eq_nil_iff.mp rest
      rw [firstFrom?_succ stands, firstFrom?_beyond (by omega)]
      rw [rest, ← stripHead?_eq_none_iff] at stands
      simp [breakAt?, breakWhere?, stands]
  | cons c behind ih =>
    by_cases stands : closing <+: text.drop start
    · rw [← rest, breakAt?_here stands, firstFrom?_of_stands inside stands, Option.map_some,
        slice_self]
    · have later := ih (lt_length_of_drop rest) (drop_succ rest)
      rw [firstFrom?_succ stands]
      rw [rest, ← stripHead?_eq_none_iff] at stands
      simp only [breakAt?, breakWhere?, stands] at later ⊢
      rw [later, Option.map_map]
      refine Option.map_congr fun place found => ?_
      have le := (firstFrom?_eq_some_iff.mp found).1
      simp [slice_cons rest (Nat.lt_of_succ_le le)]

/-- Whether a placeholder begins at a place is decided by the opening delimiter there and by a
search for the closing one from behind the first character of the expression. -/
theorem atHead?_drop (inside : start ≤ text.length) :
    atHead? opening closing (text.drop start) =
      if opening <+: text.drop start then
        (firstFrom? closing text (start + opening.length + 1)).map fun place =>
          (slice text (start + opening.length) place, text.drop (place + closing.length))
      else none := by
  by_cases stands : opening <+: text.drop start
  · rw [atHead?, stripHead?_drop stands, if_pos stands]
    have fits := fits_of_stands inside stands
    cases rest : text.drop (start + opening.length) with
    | nil =>
      have size : text.length ≤ start + opening.length := List.drop_eq_nil_iff.mp rest
      rw [firstFrom?_beyond (by omega)]
      rfl
    | cons c behind =>
      simp only
      rw [← drop_succ rest, breakAt?_drop (lt_length_of_drop rest), Option.map_map]
      refine Option.map_congr fun place found => ?_
      have le := (firstFrom?_eq_some_iff.mp found).1
      simp [slice_cons rest (Nat.lt_of_succ_le le)]
  · rw [atHead?, stripHead?_eq_none_iff.mpr stands, if_neg stands]

/-- The next placeholder from a place on: at the first opening delimiter, up to the first closing
one that begins behind it and one character more. -/
def next? (opening closing text : List Char) (start : Nat) : Option Placeholder :=
  (firstFrom? opening text start).bind fun i =>
    (firstFrom? closing text (i + opening.length + 1)).map fun j =>
      ⟨i, j + closing.length, String.ofList (slice text (i + opening.length) j)⟩

theorem next?_eq_some_iff {p : Placeholder} : next? opening closing text start = some p ↔
    firstFrom? opening text start = some p.start ∧
      ∃ j, firstFrom? closing text (p.start + opening.length + 1) = some j ∧
        p.stop = j + closing.length ∧
        p.expression = String.ofList (slice text (p.start + opening.length) j) := by
  obtain ⟨first, stop, expression⟩ := p
  simp only [next?, Option.bind_eq_some_iff, Option.map_eq_some_iff, Placeholder.mk.injEq]
  constructor
  · rintro ⟨i, opens, j, closes, rfl, rfl, rfl⟩
    exact ⟨opens, j, closes, rfl, rfl⟩
  · rintro ⟨opens, j, closes, rfl, rfl⟩
    exact ⟨first, opens, j, closes, rfl, rfl, rfl⟩

theorem next?_inside {p : Placeholder} (found : next? opening closing text start = some p) :
    start ≤ p.start ∧ p.start < p.stop ∧ p.stop ≤ text.length := by
  obtain ⟨opens, j, closes, stop, -⟩ := next?_eq_some_iff.mp found
  obtain ⟨after, -, -, -⟩ := firstFrom?_eq_some_iff.mp opens
  obtain ⟨behind, inside, stands, -⟩ := firstFrom?_eq_some_iff.mp closes
  have := fits_of_stands inside stands
  omega

/-- The placeholders from a place on, each searched for from behind the one before. -/
def searched (opening closing text : List Char) (start : Nat) : List Placeholder :=
  match found : next? opening closing text start with
  | none => []
  | some p =>
    have := next?_inside found
    p :: searched opening closing text p.stop
termination_by text.length - start

theorem searched_eq (opening closing text : List Char) (start : Nat) :
    searched opening closing text start = match next? opening closing text start with
      | none => []
      | some p => p :: searched opening closing text p.stop := by
  rw [searched]
  split
  · rename_i missing; simp only [missing]
  · rename_i p found; simp only [found]

/-- A placeholder at a place is the next one from there. -/
theorem next?_of_atHead {inner rest : List Char} (inside : start ≤ text.length)
    (found : atHead? opening closing (text.drop start) = some (inner, rest)) :
    ∃ stop, stop = start + opening.length + inner.length + closing.length ∧
      rest = text.drop stop ∧
      next? opening closing text start = some ⟨start, stop, String.ofList inner⟩ := by
  rw [atHead?_drop inside] at found
  split at found
  · rename_i stands
    obtain ⟨j, closes, pair⟩ := Option.map_eq_some_iff.mp found
    cases pair
    obtain ⟨le, bound, -, -⟩ := firstFrom?_eq_some_iff.mp closes
    have size : j + closing.length = start + opening.length +
        (slice text (start + opening.length) j).length + closing.length := by
      simp only [slice, List.length_take, List.length_drop]
      omega
    exact ⟨j + closing.length, size, rfl, next?_eq_some_iff.mpr
      ⟨firstFrom?_of_stands inside stands, j, closes, rfl, rfl⟩⟩
  · cases found

/-- Where no placeholder is, the next one is the one from the next place on. That a closing
delimiter is missing here rules out every later place. -/
theorem next?_succ (inside : start ≤ text.length)
    (nothing : atHead? opening closing (text.drop start) = none) :
    next? opening closing text start = next? opening closing text (start + 1) := by
  rw [atHead?_drop inside] at nothing
  split at nothing
  · have closes := Option.map_eq_none_iff.mp nothing
    have never {later : Nat} (le : start ≤ later) : next? opening closing text later = none := by
      rw [next?, Option.bind_eq_none_iff]
      intro i opens
      have := (firstFrom?_eq_some_iff.mp opens).1
      rw [firstFrom?_of_none (by omega) closes]
      rfl
    rw [never (Nat.le_refl _), never (Nat.le_succ _)]
  · rename_i absent
    rw [next?, next?, firstFrom?_succ absent]

theorem next?_beyond (beyond : text.length < start) : next? opening closing text start = none := by
  rw [next?, firstFrom?_beyond beyond]
  rfl

/-- The scan of what a text has from a place on finds what the searches find. -/
theorem scan_eq_searched {offset : Nat} {rest : List Char} (inside : offset ≤ text.length)
    (here : text.drop offset = rest) :
    scan opening closing offset rest = searched opening closing text offset := by
  fun_induction scan opening closing offset rest with
  | case1 offset rest inner behind found stop shorter ih =>
    rw [← here] at found
    obtain ⟨_, rfl, after, next⟩ := next?_of_atHead inside found
    have bound := (next?_inside next).2.2
    rw [searched_eq, next]
    exact congrArg _ (ih bound after.symm)
  | case2 offset found =>
    rw [← here] at found
    have := List.drop_eq_nil_iff.mp here
    rw [searched_eq, next?_succ inside found, next?_beyond (by omega)]
  | case3 offset c rest found ih =>
    rw [← here] at found
    rw [ih (lt_length_of_drop here) (drop_succ here), searched_eq, searched_eq,
      next?_succ inside found]

/-- A placeholder as it is written in text. -/
def spelling (opening closing : List Char) (p : Placeholder) : List Char :=
  opening ++ p.expression.toList ++ closing

/-- Somewhere in the text delimiters enclose an expression. -/
def Occurs (opening closing text : List Char) : Prop :=
  ∃ before inner behind, inner ≠ [] ∧ text = before ++ opening ++ inner ++ closing ++ behind

/-- What a text has before, between and behind placeholders, from a place on. -/
def gaps (text : List Char) : (start : Nat) → List Placeholder → List (List Char)
  | start, [] => [text.drop start]
  | start, p :: rest => slice text start p.start :: gaps text p.stop rest

/-- Placeholders written out between gaps. -/
def woven (opening closing : List Char) : List (List Char) → List Placeholder → List Char
  | gap :: gaps, p :: rest => gap ++ p.spelling opening closing ++ woven opening closing gaps rest
  | gaps, _ => gaps.flatten

/-- Placeholders that lie one behind the other and make up the text together with the gaps, in which
there are no others. -/
structure Divided (opening closing text : List Char) (start : Nat) (found : List Placeholder) :
    Prop where
  behind : ∀ p ∈ found, start ≤ p.start
  apart : found.Pairwise fun p q => p.stop ≤ q.start
  inside : ∀ p ∈ found, p.start < p.stop ∧ p.stop ≤ text.length
  filled : ∀ p ∈ found, p.expression ≠ ""
  spelled : ∀ p ∈ found, slice text p.start p.stop = p.spelling opening closing
  whole : woven opening closing (gaps text start found) found = text.drop start
  exhausted : ∀ gap ∈ gaps text start found, ¬ Occurs opening closing gap

theorem slice_of_append {middle behind : List Char} (here : text.drop start = middle ++ behind) :
    slice text start (start + middle.length) = middle := by
  rw [slice, here, Nat.add_sub_cancel_left, List.take_left]

theorem next?_spelled {p : Placeholder} (found : next? opening closing text start = some p) :
    p.expression ≠ "" ∧ slice text p.start p.stop = p.spelling opening closing := by
  obtain ⟨opens, j, closes, stop, expression⟩ := next?_eq_some_iff.mp found
  obtain ⟨-, -, opened, -⟩ := firstFrom?_eq_some_iff.mp opens
  obtain ⟨le, inside, closed, -⟩ := firstFrom?_eq_some_iff.mp closes
  have size : (slice text (p.start + opening.length) j).length =
      j - (p.start + opening.length) := by
    simp only [slice, List.length_take, List.length_drop]
    omega
  constructor
  · intro empty
    have none := congrArg String.toList (expression.symm.trans empty)
    rw [String.toList_ofList] at none
    rw [none] at size
    simp at size
    omega
  · have whole : text.drop p.start =
        p.spelling opening closing ++ text.drop (j + closing.length) := by
      rw [spelling, expression, String.toList_ofList, List.append_assoc, List.append_assoc,
        ← List.drop_drop (i := closing.length), List.prefix_iff_eq_append.mp closed,
        slice_append_drop (by omega), ← List.drop_drop, List.prefix_iff_eq_append.mp opened]
    have reach : p.stop = p.start + (p.spelling opening closing).length := by
      rw [spelling, expression, String.toList_ofList]
      simp only [List.length_append, size]
      omega
    rw [reach]
    exact slice_of_append whole

/-- Before the next placeholder there is none. -/
theorem not_occurs_before {p : Placeholder} (found : next? opening closing text start = some p) :
    ¬ Occurs opening closing (slice text start p.start) := by
  rintro ⟨before, inner, behind, filled, whole⟩
  obtain ⟨opens, -⟩ := next?_eq_some_iff.mp found
  obtain ⟨le, -, -, first⟩ := firstFrom?_eq_some_iff.mp opens
  have size := congrArg List.length whole
  have positive := List.length_pos_iff.mpr filled
  simp only [slice, List.length_take, List.length_append] at size
  refine first (start + before.length) (by omega) (by omega) ?_
  rw [← List.drop_drop, ← slice_append_drop le, whole]
  simp [List.append_assoc]

/-- Where no next placeholder is found there is none. -/
theorem not_occurs_of_none (missing : next? opening closing text start = none) :
    ¬ Occurs opening closing (text.drop start) := by
  rintro ⟨before, inner, behind, filled, whole⟩
  have positive := List.length_pos_iff.mpr filled
  have size := congrArg List.length whole
  simp only [List.length_append, List.length_drop] at size
  have opened : opening <+: text.drop (start + before.length) := by
    rw [← List.drop_drop, whole]
    simp [List.append_assoc]
  have closed : closing <+: text.drop (start + (before ++ opening ++ inner).length) := by
    rw [← List.drop_drop, whole, List.append_assoc _ closing, List.drop_left]
    exact List.prefix_append _ _
  simp only [List.length_append] at closed
  cases opens : firstFrom? opening text start with
  | none => exact firstFrom?_eq_none_iff.mp opens _ (by omega) (by omega) opened
  | some i =>
    obtain ⟨-, -, -, first⟩ := firstFrom?_eq_some_iff.mp opens
    have le : i ≤ start + before.length := by
      rcases Nat.lt_or_ge (start + before.length) i with lt | le
      · exact absurd opened (first _ (by omega) lt)
      · exact le
    rw [next?, opens, Option.bind_some, Option.map_eq_none_iff] at missing
    exact firstFrom?_eq_none_iff.mp missing _ (by omega) (by omega) closed

theorem divided_nil (missing : next? opening closing text start = none) :
    Divided opening closing text start [] where
  behind := List.forall_mem_nil _
  apart := .nil
  inside := List.forall_mem_nil _
  filled := List.forall_mem_nil _
  spelled := List.forall_mem_nil _
  whole := List.append_nil _
  exhausted := List.forall_mem_singleton.mpr (not_occurs_of_none missing)

theorem Divided.cons {p : Placeholder} {rest : List Placeholder}
    (found : next? opening closing text start = some p)
    (later : Divided opening closing text p.stop rest) :
    Divided opening closing text start (p :: rest) := by
  obtain ⟨le, lt, bound⟩ := next?_inside found
  obtain ⟨filled, spelled⟩ := next?_spelled found
  constructor
  · refine List.forall_mem_cons.mpr ⟨le, fun q member => ?_⟩
    have := later.behind q member
    omega
  · exact .cons later.behind later.apart
  · exact List.forall_mem_cons.mpr ⟨⟨lt, bound⟩, later.inside⟩
  · exact List.forall_mem_cons.mpr ⟨filled, later.filled⟩
  · exact List.forall_mem_cons.mpr ⟨spelled, later.spelled⟩
  · rw [gaps, woven, later.whole, ← spelled, List.append_assoc,
      slice_append_drop (Nat.le_of_lt lt), slice_append_drop le]
  · exact List.forall_mem_cons.mpr ⟨not_occurs_before found, later.exhausted⟩

theorem searched_divided (opening closing text : List Char) (start : Nat) :
    Divided opening closing text start (searched opening closing text start) := by
  fun_induction searched opening closing text start with
  | case1 start missing => exact divided_nil missing
  | case2 start p found progress ih => exact ih.cons found

/-- The scan is the one by two searches: leftmost, shortest and without overlaps. An attribute is
bound by the first placeholder that it finds. -/
theorem all_leftmost_shortest (config : Config) (text : String) :
    all config text = searched config.opening.toList config.closing.toList text.toList 0 ∧
      Divided config.opening.toList config.closing.toList text.toList 0 (all config text) ∧
      ofAttribute? config (some text) = (all config text).head? ∧
      ofAttribute? config none = none := by
  have same : all config text =
      searched config.opening.toList config.closing.toList text.toList 0 :=
    scan_eq_searched (Nat.zero_le _) rfl
  refine ⟨same, ?_, rfl, rfl⟩
  rw [same]
  exact searched_divided _ _ _ _

end Placeholder
end LiveTemplate
