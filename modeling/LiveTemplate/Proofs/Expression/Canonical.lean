import LiveTemplate.Expression.Evaluator
import LiveTemplate.Proofs.Expression.Grammar

/-! Calls in their canonical form. What a text is read as is written back with a comma and a blank
between the parameters, and reads as the same call again. The calls for which this holds are the
legible ones, and reading yields no others. -/
namespace LiveTemplate.Expression.Source

open Text

variable {f : String} {ps : List String}

/-- A name as it may stand in a call. -/
structure Nameable (name : String) : Prop where
  bare : Bare name.toList
  clear : ∀ c ∈ name.toList, ¬ isParenthesis c

/-- A call whose canonical form shows its function and its parameters. The list with one empty
parameter would look like the list without parameters. -/
structure Legible (f : String) (ps : List String) : Prop where
  named : f ≠ ""
  function : Nameable f
  parameters : ∀ p ∈ ps, Nameable p
  apart : ∀ p ∈ ps, ',' ∉ p.toList
  unambiguous : ps ≠ [""]

theorem Nameable.exists_visible {name : String} (nameable : Nameable name) (nonempty : name ≠ "") :
    ∃ c ∈ name.toList, ¬ isBlank c := by
  cases whole : name.toList with
  | nil => exact absurd (String.toList_eq_nil_iff.mp whole) nonempty
  | cons c rest => exact ⟨c, List.mem_cons_self, nameable.bare.first c (by rw [whole]; rfl)⟩

theorem Nameable.trimsTo {name : String} (nameable : Nameable name) :
    TrimsTo name.toList name.toList :=
  trim_eq_iff.mp (trim_of_bare nameable.bare)

/-- The list between the parentheses of a canonical call. -/
def listText (ps : List String) : List Char := [',', ' '].intercalate (ps.map String.toList)

theorem toList_canonicalCall (f : String) (ps : List String) :
    (canonicalCall f ps).toList = f.toList ++ '(' :: (listText ps ++ [')']) := by
  simp [canonicalCall, listText, String.toList_intercalate]

/-- The pieces between the commas of the list: all but the first begin with a blank. -/
def spaced : List String → List (List Char)
  | [] => []
  | p :: ps => p.toList :: ps.map (' ' :: ·.toList)

theorem listText_eq (ps : List String) : listText ps = [','].intercalate (spaced ps) := by
  cases ps with
  | nil => rfl
  | cons p ps => simp [listText, spaced, intercalate_cons, List.flatMap_map]

theorem clear_listText (nameable : ∀ p ∈ ps, Nameable p) :
    ∀ c ∈ listText ps, ¬ isParenthesis c := by
  cases ps with
  | nil => simp [listText]
  | cons p ps =>
    obtain ⟨first, rest⟩ := List.forall_mem_cons.mp nameable
    have apart : ∀ c ∈ [',', ' '], ¬ isParenthesis c := by simp [isParenthesis]
    intro c member
    rw [listText, List.map_cons, intercalate_cons, List.mem_append, List.mem_flatMap] at member
    rcases member with inside | ⟨piece, later, inside⟩
    · exact first.clear c inside
    · obtain ⟨q, inList, rfl⟩ := List.mem_map.mp later
      rcases List.mem_append.mp inside with separator | inside
      · exact apart c separator
      · exact (rest q inList).clear c inside

theorem splitsTo_listText (apart : ∀ p ∈ ps, ',' ∉ p.toList) (nonempty : ps ≠ []) :
    SplitsTo ',' (listText ps) (spaced ps) := by
  cases ps with
  | nil => exact absurd rfl nonempty
  | cons p ps =>
    obtain ⟨first, rest⟩ := List.forall_mem_cons.mp apart
    refine ⟨List.cons_ne_nil _ _, List.forall_mem_cons.mpr ⟨first, ?_⟩, (listText_eq _).symm⟩
    intro piece member
    obtain ⟨q, inList, rfl⟩ := List.mem_map.mp member
    simpa using rest q inList

theorem trimsTo_spaced (nameable : ∀ p ∈ ps, Nameable p) :
    List.Forall₂ (fun piece p => TrimsTo piece p.toList) (spaced ps) ps := by
  have behindBlank {p : String} (nameable : Nameable p) : TrimsTo (' ' :: p.toList) p.toList :=
    ⟨nameable.bare, [' '], [], by simp, allBlank_iff.mp (by decide), by simp⟩
  cases ps with
  | nil => exact .nil
  | cons p ps =>
    obtain ⟨first, rest⟩ := List.forall_mem_cons.mp nameable
    refine .cons first.trimsTo ?_
    rw [List.forall₂_map_left_iff, List.forall₂_same]
    exact fun q member => behindBlank (rest q member)

/-- A legible list shows its parameters: with two of them there is a comma, and one alone is not
empty. -/
theorem Legible.lists (legible : Legible f ps) : Lists (listText ps) ps := by
  have visible (nonempty : ps ≠ []) : ∃ c ∈ listText ps, ¬ isBlank c := by
    match ps, nonempty, legible with
    | [p], _, legible =>
      have filled : p ≠ "" := by
        rintro rfl
        exact legible.unambiguous rfl
      simpa [listText] using (legible.parameters p (by simp)).exists_visible filled
    | p :: q :: ps, _, _ => exact ⟨',', by simp [listText, intercalate_cons], by decide⟩
  by_cases nonempty : ps = []
  · subst nonempty
    exact .blank (by simp [listText])
  · exact .pieces (visible nonempty) (splitsTo_listText legible.apart nonempty)
      (trimsTo_spaced legible.parameters)

theorem Legible.callShape (legible : Legible f ps) :
    CallShape (canonicalCall f ps).toList f.toList (listText ps) [] where
  whole := toList_canonicalCall f ps
  headClear := legible.function.clear
  innerClear := clear_listText legible.parameters
  named := legible.function.exists_visible legible.named
  ended := List.forall_mem_nil _

theorem Legible.parse (legible : Legible f ps) : parse (canonicalCall f ps) = .call f ps :=
  ofList_eq_call_iff.mpr
    ⟨_, _, _, legible.callShape, legible.function.trimsTo, legible.lists⟩

theorem nameable_of_trimsTo {text : List Char} {name : String} (trims : TrimsTo text name.toList)
    (clear : ∀ c ∈ text, ¬ isParenthesis c) : Nameable name := by
  refine ⟨trims.bare, fun c member => clear c ?_⟩
  rw [← trim_eq_iff.mpr trims] at member
  exact mem_of_mem_trim member

/-- What a list without parentheses is read as. A single piece is not blank, as the list is not. -/
theorem parameters_of_lists {inner : List Char} (clear : ∀ c ∈ inner, ¬ isParenthesis c)
    (lists : Lists inner ps) :
    (∀ p ∈ ps, Nameable p) ∧ (∀ p ∈ ps, ',' ∉ p.toList) ∧ ps ≠ [""] := by
  cases lists with
  | blank blank => exact ⟨List.forall_mem_nil _, List.forall_mem_nil _, by simp⟩
  | @pieces cut _ visible split trimmed =>
    obtain rfl := map_trim_eq_iff.mpr trimmed
    simp only [List.forall_mem_map]
    refine ⟨fun piece member => ?_, fun piece member => ?_, fun alone => ?_⟩
    · refine nameable_of_trimsTo (eq_ofList_trim_iff.mp rfl) fun c inside => clear c ?_
      rw [← split.joined]
      exact mem_intercalate_of_mem member inside
    · rw [String.toList_ofList]
      exact fun comma => split.apart piece member (mem_of_mem_trim comma)
    · obtain ⟨piece, rfl, empty⟩ := List.map_eq_singleton_iff.mp alone
      obtain ⟨c, member, visible⟩ := visible
      rw [← split.joined, List.intercalate_singleton] at member
      exact visible (trim_eq_nil_iff.mp (trim_eq_iff.mpr (eq_ofList_trim_iff.mp empty)) c member)

/-- Only legible calls are read. -/
theorem legible_of_parse {text : String} (parsed : Source.parse text = .call f ps) :
    Legible f ps := by
  obtain ⟨head, inner, behind, shape, name, lists⟩ := ofList_eq_call_iff.mp parsed
  obtain ⟨parameters, apart, unambiguous⟩ := parameters_of_lists shape.innerClear lists
  refine ⟨?_, nameable_of_trimsTo name shape.headClear, parameters, apart, unambiguous⟩
  rintro rfl
  obtain ⟨c, member, visible⟩ := shape.named
  exact visible (trim_eq_nil_iff.mp (trim_eq_iff.mpr name) c member)

theorem Legible.bare_canonicalCall (legible : Legible f ps) : Bare (canonicalCall f ps).toList := by
  obtain ⟨c, rest, whole⟩ := List.exists_cons_of_ne_nil
    (mt String.toList_eq_nil_iff.mp legible.named)
  have first := legible.function.bare.first c (by rw [whole]; rfl)
  rw [toList_canonicalCall]
  constructor
  · rw [whole]
    rintro _ ⟨⟩
    exact first
  · rw [← List.cons_append, ← List.append_assoc, List.getLast?_append]
    rintro _ ⟨⟩
    decide

/-- A call that was read is read again from its canonical form, and exactly the legible calls are
read from theirs. The evaluator made of that form is the one made of function and parameters. -/
theorem canonicalCall_reads_back :
    (∀ text f ps, Source.parse text = .call f ps →
      Source.parse (canonicalCall f ps) = .call f ps) ∧
    (∀ f ps, Source.parse (canonicalCall f ps) = .call f ps ↔ Legible f ps) ∧
    ∀ f ps, Legible f ps →
      Evaluator.ofSource (canonicalCall f ps) = Evaluator.ofCall (canonicalCall f ps) f ps := by
  refine ⟨fun text f ps parsed => (legible_of_parse parsed).parse,
    fun f ps => ⟨legible_of_parse, Legible.parse⟩, fun f ps legible => ?_⟩
  rw [Evaluator.ofSource, legible.parse, trim_of_bare legible.bare_canonicalCall,
    String.ofList_toList]

/-- An empty parameter, a repeated one and one with a blank inside. -/
def loosePage : String := "page ( of, ,last one,of)"

theorem loosePage_reads_back :
    parse loosePage = .call "page" ["of", "", "last one", "of"] ∧
      canonicalCall "page" ["of", "", "last one", "of"] = "page(of, , last one, of)" ∧
      parse "page(of, , last one, of)" = .call "page" ["of", "", "last one", "of"] ∧
      Legible "page" ["of", "", "last one", "of"] ∧
      Evaluator.ofSource "page(of, , last one, of)" =
        .ofCall "page(of, , last one, of)" "page" ["of", "", "last one", "of"] := by
  have parsed : parse loosePage = .call "page" ["of", "", "last one", "of"] := by decide
  have written :
      canonicalCall "page" ["of", "", "last one", "of"] = "page(of, , last one, of)" := by decide
  obtain ⟨again, legible, evaluators⟩ := canonicalCall_reads_back
  have back := again _ _ _ parsed
  have shown := (legible _ _).mp back
  refine ⟨parsed, written, written ▸ back, shown, ?_⟩
  rw [← written]
  exact evaluators _ _ shown

end LiveTemplate.Expression.Source
