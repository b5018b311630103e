import LiveTemplate.Proofs.Markup.NormalForm

/-! What of a tree is its structure: the tags and how they are nested, the names of the attributes,
the comments, and raw text as it stands. Other text and the values of attributes are content
that is put into it. -/
namespace LiveTemplate.Node

open LiveTemplate.Markup

/-- The names of the attributes, in order. -/
def bareNames (attributes : Attributes) : Attributes := attributes.map fun entry => (entry.1, none)

mutual

/-- The node without its content. -/
def blanked : Node → Node
  | text _ => text ""
  | comment data => comment data
  | element tag attributes _ cs =>
    element tag (bareNames attributes) [] (if isRawText tag then cs else blankedAll cs)
  | fragment cs => fragment (blankedAll cs)
  | bare => bare
  | bareParent cs => bareParent cs

def blankedAll : List Node → List Node
  | [] => []
  | n :: rest => blanked n :: blankedAll rest

end

mutual

/-- The structure that a node shows among its siblings. -/
def outline : Node → List Node
  | text _ => []
  | comment data => [comment data]
  | element tag attributes _ cs =>
    [element tag (bareNames attributes) []
      (if isRawText tag then [text (textContents cs)] else outlines cs)]
  | fragment cs => outlines cs
  | bare | bareParent _ => []

def outlines : List Node → List Node
  | [] => []
  | n :: rest => outline n ++ outlines rest

end

theorem bareNames_bareNames (attributes : Attributes) :
    bareNames (bareNames attributes) = bareNames attributes := by
  simp [bareNames]

theorem names_bareNames (attributes : Attributes) :
    (bareNames attributes).map Prod.fst = attributes.map Prod.fst := by
  simp [bareNames]

/-! ### Blanking a tree leaves its structure -/

mutual

theorem outline_blanked : (n : Node) → outline (blanked n) = outline n
  | text _ | comment _ | bare | bareParent _ => rfl
  | element tag attributes _ cs => by
    simp only [blanked, outline, bareNames_bareNames]
    split
    · rfl
    · rw [outlines_blankedAll cs]
  | fragment cs => outlines_blankedAll cs

theorem outlines_blankedAll : (cs : List Node) → outlines (blankedAll cs) = outlines cs
  | [] => rfl
  | n :: rest => by
    rw [blankedAll, outlines, outline_blanked n, outlines_blankedAll rest, outlines]

end

theorem blankedAll_eq_nil_iff {cs : List Node} : blankedAll cs = [] ↔ cs = [] := by
  cases cs <;> simp [blankedAll]

theorem clean_bareNames {attributes : Attributes} :
    (bareNames attributes).Clean ↔ attributes.Clean := by
  simp only [Attributes.Clean, Attributes.Keyed, Attributes.PlainNames, names_bareNames]

mutual

theorem clean_blanked : (n : Node) → ((blanked n).Clean ↔ n.Clean)
  | text _ => Iff.rfl
  | comment _ | bare | bareParent _ => Iff.rfl
  | element tag attributes _ cs => by
    simp only [blanked, Clean, clean_bareNames]
    split
    · rfl
    · rename_i notRaw
      simp [blankedAll_eq_nil_iff, allClean_blankedAll cs, notRaw]
  | fragment cs => allClean_blankedAll cs

theorem allClean_blankedAll : (cs : List Node) → (AllClean (blankedAll cs) ↔ AllClean cs)
  | [] => Iff.rfl
  | n :: rest => and_congr (clean_blanked n) (allClean_blankedAll rest)

end

/-! ### The normal form has the same structure -/

theorem outlines_append (ms ns : List Node) : outlines (ms ++ ns) = outlines ms ++ outlines ns := by
  induction ms with
  | nil => rfl
  | cons m ms ih => rw [List.cons_append, outlines, ih, outlines, List.append_assoc]

theorem outlines_prepend (n : Node) (rest : List Node) :
    outlines (prepend n rest) = outline n ++ outlines rest := by
  rcases prepend_cases n rest with ⟨data, behind, more, rfl, rfl, joined⟩ | ⟨-, same⟩
  · rw [joined]
    rfl
  · rw [same, outlines]

theorem outlines_joinTexts (ns : List Node) : outlines (joinTexts ns) = outlines ns := by
  induction ns with
  | nil => rfl
  | cons n ns ih => rw [joinTexts, List.foldr_cons, outlines_prepend, outlines, ← ih, joinTexts]

mutual

theorem outlines_spliced : (n : Node) → n.Clean → outlines (spliced n) = outline n
  | text data, _ => by
    rw [spliced]
    split <;> rfl
  | comment data, _ => rfl
  | element tag attributes _ cs, clean => by
    obtain ⟨-, -, -, raw, inner⟩ := clean
    simp only [spliced, outlines, outline, List.append_nil, textContents_joinTexts,
      outlines_joinTexts, outlines_splicedAll cs inner]
    split
    · rename_i isRaw
      rw [(texts_splicedAll (raw isRaw).1).2]
    · rfl
  | fragment cs, clean => by
    rw [spliced, outline]
    exact outlines_splicedAll cs clean

theorem outlines_splicedAll : (cs : List Node) → AllClean cs →
    outlines (splicedAll cs) = outlines cs
  | [], _ => rfl
  | n :: rest, clean => by
    rw [splicedAll, outlines_append, outlines_spliced n clean.1, outlines_splicedAll rest clean.2,
      outlines]

end

theorem outlines_normalForm {cs : List Node} (clean : AllClean cs) :
    outlines (normalForm cs) = outlines cs := by
  rw [normalForm, outlines_joinTexts, outlines_splicedAll cs clean]

/-- Trees that differ in their content alone have one structure. -/
theorem outlines_eq_of_blankedAll_eq {cs ds : List Node}
    (same : blankedAll ds = blankedAll cs) : outlines ds = outlines cs := by
  rw [← outlines_blankedAll ds, same, outlines_blankedAll]

theorem allClean_of_blankedAll_eq {cs ds : List Node} (same : blankedAll ds = blankedAll cs)
    (clean : AllClean cs) : AllClean ds := by
  rw [← allClean_blankedAll ds, same, allClean_blankedAll]
  exact clean

end LiveTemplate.Node
