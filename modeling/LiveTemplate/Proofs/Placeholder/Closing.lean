import LiveTemplate.Proofs.Placeholder.Leftmost
import Mathlib.Data.List.Basic

/-! Closing delimiters inside expressions. An expression has at least one character, so the search
for its end begins one place too late to see a closing delimiter that follows the opening one at
once. Such a pair is no placeholder of its own: it runs on to the next closing delimiter. Nowhere
else does an expression hold the closing delimiter. -/
namespace LiveTemplate

namespace Placeholder

open Text

variable {opening closing text : List Char} {start : Nat} {p : Placeholder}

/-- The text has an empty pair of delimiters at the beginning of the placeholder, and room for a
second closing delimiter before its end. -/
def Overruns (opening closing text : List Char) (p : Placeholder) : Prop :=
  opening ++ closing <+: text.drop p.start ∧
    p.start + opening.length + closing.length + closing.length ≤ p.stop

/-- What stands inside a slice stands in the text. -/
theorem prefix_drop_slice_iff {start stop k : Nat} : closing <+: (slice text start stop).drop k ↔
    closing <+: text.drop (start + k) ∧ closing.length ≤ stop - start - k := by
  rw [slice, List.drop_take, List.drop_drop, List.prefix_take_iff]

theorem append_prefix_iff {front behind : List Char} : front ++ behind <+: text ↔
    front <+: text ∧ behind <+: text.drop front.length := by
  constructor
  · rintro ⟨rest, rfl⟩
    rw [List.append_assoc]
    exact ⟨List.prefix_append _ _, by simp⟩
  · rintro ⟨⟨rest, rfl⟩, stands⟩
    rw [List.drop_left] at stands
    exact (List.prefix_append_right_inj front).mpr stands

theorem infix_iff_exists_drop {pattern : List Char} :
    pattern <:+: text ↔ ∃ k, pattern <+: text.drop k := by
  rw [List.infix_iff_prefix_suffix]
  constructor
  · rintro ⟨rest, stands, suffix⟩
    rw [List.suffix_iff_eq_drop.mp suffix] at stands
    exact ⟨_, stands⟩
  · rintro ⟨k, stands⟩
    exact ⟨_, stands, List.drop_suffix k text⟩

/-- In an expression the closing delimiter stands at the beginning or nowhere: a later place would
have ended the expression. -/
theorem eq_zero_of_closing (nonempty : closing ≠ [])
    (found : next? opening closing text start = some p) {k : Nat}
    (stands : closing <+: p.expression.toList.drop k) : k = 0 := by
  obtain ⟨-, j, closes, -, expression⟩ := next?_eq_some_iff.mp found
  rw [expression, String.toList_ofList, prefix_drop_slice_iff] at stands
  obtain ⟨-, -, -, first⟩ := firstFrom?_eq_some_iff.mp closes
  have positive := List.length_pos_iff.mpr nonempty
  rcases Nat.eq_zero_or_pos k with zero | later
  · exact zero
  · exact absurd stands.1 (first _ (by omega) (by omega))

theorem closing_infix_iff (nonempty : closing ≠ [])
    (found : next? opening closing text start = some p) :
    closing <:+: p.expression.toList ↔ p.Overruns opening closing text := by
  have heads : closing <:+: p.expression.toList ↔ closing <+: p.expression.toList.drop 0 := by
    rw [infix_iff_exists_drop]
    constructor
    · rintro ⟨k, stands⟩
      rwa [eq_zero_of_closing nonempty found stands] at stands
    · exact fun stands => ⟨0, stands⟩
  obtain ⟨opens, j, closes, stop, expression⟩ := next?_eq_some_iff.mp found
  obtain ⟨-, -, opened, -⟩ := firstFrom?_eq_some_iff.mp opens
  obtain ⟨behind, -, -, -⟩ := firstFrom?_eq_some_iff.mp closes
  rw [heads, expression, String.toList_ofList, prefix_drop_slice_iff, Overruns, append_prefix_iff,
    List.drop_drop, Nat.add_zero, stop]
  constructor
  · rintro ⟨stands, fits⟩
    exact ⟨⟨opened, stands⟩, by omega⟩
  · rintro ⟨⟨-, stands⟩, fits⟩
    exact ⟨stands, by omega⟩

/-- At an empty pair the scan finds nothing more exactly if nothing is closed behind the first
character of the pair's closing delimiter. -/
theorem next?_of_pair (nonempty : closing ≠ []) (inside : start ≤ text.length)
    (pair : opening ++ closing <+: text.drop start) :
    (next? opening closing text start = none ↔
        ¬ closing <:+: text.drop (start + opening.length + 1)) ∧
      ∀ p, next? opening closing text start = some p → p.start = start := by
  have opens := firstFrom?_of_stands inside (append_prefix_iff.mp pair).1
  constructor
  · rw [next?, opens, Option.bind_some, Option.map_eq_none_iff, firstFrom?_eq_none_iff,
      infix_iff_exists_drop, not_exists]
    constructor
    · intro absent k stands
      rw [List.drop_drop] at stands
      have positive := List.length_pos_iff.mpr nonempty
      have size := stands.length_le
      rw [List.length_drop] at size
      exact absent _ (by omega) (by omega) stands
    · intro absent k le within stands
      refine absent (k - (start + opening.length + 1)) ?_
      rwa [List.drop_drop, Nat.add_sub_cancel' le]
  · intro p found
    exact (Option.some.inj (opens.symm.trans (next?_eq_some_iff.mp found).1)).symm

theorem exists_next?_of_mem (member : p ∈ searched opening closing text start) :
    ∃ place, next? opening closing text place = some p := by
  fun_induction searched opening closing text start with
  | case1 start missing => cases member
  | case2 start q found progress ih =>
    rcases List.mem_cons.mp member with rfl | later
    · exact ⟨start, found⟩
    · exact ih later

/-- The searches go on at an empty pair: the pair is plain text if nothing is closed behind the
first character of its closing delimiter, and otherwise the next placeholder begins with it. -/
theorem searched_of_pair (nonempty : closing ≠ []) (inside : start ≤ text.length)
    (pair : opening ++ closing <+: text.drop start) :
    (searched opening closing text start = [] ↔
        ¬ closing <:+: text.drop (start + opening.length + 1)) ∧
      ∀ p ∈ (searched opening closing text start).head?, p.start = start := by
  obtain ⟨nothing, begins⟩ := next?_of_pair nonempty inside pair
  rw [← nothing, searched_eq]
  cases found : next? opening closing text start with
  | none => simp
  | some p => simpa using begins p found

/-- The closing delimiter stands in the expressions of exactly the placeholders that overrun an
empty pair, and there only at the beginning; where the text has no empty pair, no expression holds
it. An empty pair that the scan comes to is plain text only if nothing is closed behind it. -/
theorem closing_stands_in_overruns (config : Config) (text : String) :
    (∀ p ∈ all config text,
      (config.closing.toList <:+: p.expression.toList ↔
        p.Overruns config.opening.toList config.closing.toList text.toList) ∧
      ∀ k, config.closing.toList <+: p.expression.toList.drop k → k = 0) ∧
    (¬ config.opening.toList ++ config.closing.toList <:+: text.toList →
      ∀ p, p ∈ all config text ∨ ofAttribute? config (some text) = some p →
        ¬ config.closing.toList <:+: p.expression.toList) ∧
    (∀ start, start ≤ text.toList.length →
      config.opening.toList ++ config.closing.toList <+: text.toList.drop start →
        (searched config.opening.toList config.closing.toList text.toList start = [] ↔
          ¬ config.closing.toList <:+:
            text.toList.drop (start + config.opening.toList.length + 1)) ∧
        ∀ p ∈ (searched config.opening.toList config.closing.toList text.toList start).head?,
          p.start = start) := by
  have nonempty : config.closing.toList ≠ [] := fun none =>
    config.closing_ne (String.toList_eq_nil_iff.mp none)
  have overruns (p : Placeholder) (member : p ∈ all config text) :
      (config.closing.toList <:+: p.expression.toList ↔
        p.Overruns config.opening.toList config.closing.toList text.toList) ∧
      ∀ k, config.closing.toList <+: p.expression.toList.drop k → k = 0 := by
    rw [all, scan_eq_searched (Nat.zero_le _) List.drop_zero] at member
    obtain ⟨place, found⟩ := exists_next?_of_mem member
    exact ⟨closing_infix_iff nonempty found, fun k => eq_zero_of_closing nonempty found⟩
  refine ⟨overruns, fun noPair p found holds => ?_, fun start => searched_of_pair nonempty⟩
  have member : p ∈ all config text := by
    rcases found with member | first
    · exact member
    · exact List.mem_of_mem_head? first
  have pair := ((overruns p member).1.mp holds).1
  exact noPair (infix_iff_exists_drop.mpr ⟨_, pair⟩)

/-- Two placeholders and no empty pair. -/
def pairless : String := "a\x7bx\x7db\x7b y \x7d"

/-- An empty pair, and a placeholder behind it. -/
def paired : String := "\x7b\x7da\x7bx\x7d"

theorem found_in_paired : all Config.standard paired = [⟨0, 6, "\x7da\x7bx"⟩] := by cbv

theorem closing_stands_in_paired :
    (¬ Config.standard.opening.toList ++ Config.standard.closing.toList <:+: pairless.toList ∧
      ofAttribute? Config.standard (some pairless) = some ⟨1, 4, "x"⟩ ∧
      ¬ Config.standard.closing.toList <:+: "x".toList) ∧
    ⟨0, 6, "\x7da\x7bx"⟩ ∈ all Config.standard paired ∧
    Overruns ['\x7b'] ['\x7d'] paired.toList ⟨0, 6, "\x7da\x7bx"⟩ ∧
    ['\x7b', '\x7d'] <+: paired.toList.drop 0 ∧
    searched ['\x7b'] ['\x7d'] paired.toList 0 ≠ [] := by
  have noPair : ¬ Config.standard.opening.toList ++ Config.standard.closing.toList <:+:
      pairless.toList := by
    simp [Config.standard, pairless, List.infix_cons_iff]
  have first : ofAttribute? Config.standard (some pairless) = some ⟨1, 4, "x"⟩ := by cbv
  have member : ⟨0, 6, "\x7da\x7bx"⟩ ∈ all Config.standard paired := by
    rw [found_in_paired]
    exact List.mem_singleton_self _
  have pair : ['\x7b', '\x7d'] <+: paired.toList.drop 0 := by decide
  obtain ⟨-, without, -⟩ := closing_stands_in_overruns Config.standard pairless
  obtain ⟨overruns, -, swallows⟩ := closing_stands_in_overruns Config.standard paired
  refine ⟨⟨noPair, first, without noPair _ (.inr first)⟩, member, ?_, pair, ?_⟩
  · exact (overruns _ member).1.mp (by simp [Config.standard, List.infix_cons_iff])
  · intro nothing
    have unclosed := (swallows 0 (Nat.zero_le _) pair).1.mp nothing
    exact unclosed (by simp [Config.standard, paired, List.infix_cons_iff])

/-- The pair swallows the text and the placeholder behind it, and the expression holds the closing
delimiter. -/
theorem pair_swallows : all Config.standard paired = [⟨0, 6, "\x7da\x7bx"⟩] ∧
    ofAttribute? Config.standard (some paired) = some ⟨0, 6, "\x7da\x7bx"⟩ ∧
    Config.standard.closing.toList <:+: "\x7da\x7bx".toList := by
  refine ⟨found_in_paired, congrArg List.head? found_in_paired, ?_⟩
  simp [Config.standard, List.infix_cons_iff]

end Placeholder
end LiveTemplate
