import LiveTemplate.Config
import LiveTemplate.Text.Search

/-! Placeholders in text. At each place an opening delimiter, at least one character and the first
closing delimiter after it make a placeholder, and the scan goes on behind it; otherwise it
goes on one character later. -/
namespace LiveTemplate

/-- The characters from `start` to before `stop`; the expression lies between the delimiters. -/
structure Placeholder where
  start : Nat
  stop : Nat
  expression : String
  deriving DecidableEq, Repr

namespace Placeholder

def length (p : Placeholder) : Nat := p.stop - p.start

/-- The expression of a placeholder that begins the text, and the text behind the placeholder. -/
def atHead? (opening closing text : List Char) : Option (List Char × List Char) :=
  match Text.stripHead? opening text with
  | some (c :: behind) =>
    (Text.breakAt? closing behind).map fun (before, rest) => (c :: before, rest)
  | _ => none

theorem eq_append_of_atHead? {opening closing text inner rest : List Char}
    (found : atHead? opening closing text = some (inner, rest)) :
    inner ≠ [] ∧ text = opening ++ inner ++ closing ++ rest := by
  unfold atHead? at found
  split at found
  · rename_i c behind head
    obtain ⟨⟨before, after⟩, broken, pair⟩ := Option.map_eq_some_iff.1 found
    cases pair
    refine ⟨by simp, ?_⟩
    rw [Text.stripHead?_eq_some_iff.1 head, Text.eq_append_of_breakAt? broken]
    simp
  · cases found

theorem length_lt_of_atHead? {opening closing text inner rest : List Char}
    (found : atHead? opening closing text = some (inner, rest)) : rest.length < text.length := by
  obtain ⟨nonempty, whole⟩ := eq_append_of_atHead? found
  have := List.length_pos_iff.2 nonempty
  simp [whole]; omega

/-- The placeholders of a text that stands behind `offset` other characters. -/
def scan (opening closing : List Char) (offset : Nat) (text : List Char) : List Placeholder :=
  match found : atHead? opening closing text with
  | some (inner, rest) =>
    let stop := offset + opening.length + inner.length + closing.length
    have := length_lt_of_atHead? found
    ⟨offset, stop, String.ofList inner⟩ :: scan opening closing stop rest
  | none => match text with
    | [] => []
    | _ :: text => scan opening closing (offset + 1) text
termination_by text.length

/-- The placeholders of a text, from left to right. -/
def all (config : Config) (text : String) : List Placeholder :=
  scan config.opening.toList config.closing.toList 0 text.toList

/-- An attribute value is bound by its first placeholder; a missing or empty value by none. -/
def ofAttribute? (config : Config) (value : Option String) : Option Placeholder :=
  value.bind fun text => (all config text).head?

end Placeholder
end LiveTemplate
