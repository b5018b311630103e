import LiveTemplate.Proofs.Markup.Clean
import LiveTemplate.Proofs.Markup.Written

/-! The normal form of trees: what markup can tell of them. Fragments are spliced into what they
stand in, empty texts are left out, neighbouring texts are one, and there are no properties. -/
namespace LiveTemplate.Node

/-- A node before others, where a text joins the text behind it. -/
def prepend : Node → List Node → List Node
  | text data, text behind :: rest => text (data ++ behind) :: rest
  | n, rest => n :: rest

def joinTexts (ns : List Node) : List Node := ns.foldr prepend []

mutual

/-- What stands for a node among its siblings. -/
def spliced : Node → List Node
  | text data => if data = "" then [] else [text data]
  | comment data => [comment data]
  | element tag attributes _ cs => [element tag attributes [] (joinTexts (splicedAll cs))]
  | fragment cs => splicedAll cs
  | bare | bareParent _ => []

def splicedAll : List Node → List Node
  | [] => []
  | n :: rest => spliced n ++ splicedAll rest

end

def normalForm (cs : List Node) : List Node := joinTexts (splicedAll cs)

mutual

/-- The node is its own normal form. -/
def Normal : Node → Prop
  | text data => data ≠ ""
  | comment _ => True
  | element _ _ properties cs => properties = [] ∧ AllNormal cs
  | fragment _ | bare | bareParent _ => False

/-- No two texts are neighbours. -/
def AllNormal : List Node → Prop
  | [] => True
  | n :: rest => Normal n ∧ (n.isText → ∀ m ∈ rest.head?, ¬ m.isText) ∧ AllNormal rest

end

/-- A text meets a text, or the node is put in front as it is. -/
theorem prepend_cases (n : Node) (rest : List Node) :
    (∃ data behind others, n = text data ∧ rest = text behind :: others ∧
      prepend n rest = text (data ++ behind) :: others) ∨
    ((n.isText → ∀ m ∈ rest.head?, ¬ m.isText) ∧ prepend n rest = n :: rest) := by
  unfold prepend
  split
  · exact .inl ⟨_, _, _, rfl, rfl, rfl⟩
  · rename_i apart
    refine .inr ⟨?_, rfl⟩
    rintro isText m first otherText
    obtain ⟨others, rfl⟩ := List.head?_eq_some_iff.1 first
    cases n <;> cases isText
    cases m <;> cases otherText
    exact apart _ _ _ rfl rfl

/-! ### The normal form is normal -/

theorem allNormal_prepend {n : Node} {rest : List Node} (normal : n.Normal)
    (others : AllNormal rest) : AllNormal (prepend n rest) := by
  rcases prepend_cases n rest with ⟨data, behind, more, rfl, rfl, joined⟩ | ⟨apart, same⟩
  · rw [joined]
    obtain ⟨-, apart, others⟩ := others
    refine ⟨?_, fun _ => apart rfl, others⟩
    exact fun empty => normal (String.append_eq_empty_iff.1 empty).1
  · rw [same]
    exact ⟨normal, apart, others⟩

theorem allNormal_joinTexts {ns : List Node} (normal : ∀ n ∈ ns, n.Normal) :
    AllNormal (joinTexts ns) := by
  induction ns with
  | nil => trivial
  | cons n ns ih =>
    rw [List.forall_mem_cons] at normal
    exact allNormal_prepend normal.1 (ih normal.2)

mutual

theorem normal_of_mem_spliced : (n : Node) → ∀ m ∈ spliced n, m.Normal
  | text data => by
    rw [spliced]
    split
    · simp
    · rename_i shown
      simpa [Normal] using shown
  | comment data => by simp [spliced, Normal]
  | element tag attributes _ cs => by
    simpa [spliced, Normal] using allNormal_joinTexts (normal_of_mem_splicedAll cs)
  | fragment cs => by
    rw [spliced]
    exact normal_of_mem_splicedAll cs
  | bare | bareParent _ => by simp [spliced]

theorem normal_of_mem_splicedAll : (cs : List Node) → ∀ m ∈ splicedAll cs, m.Normal
  | [] => by simp [splicedAll]
  | n :: rest => by
    rw [splicedAll, List.forall_mem_append]
    exact ⟨normal_of_mem_spliced n, normal_of_mem_splicedAll rest⟩

end

theorem allNormal_normalForm (cs : List Node) : AllNormal (normalForm cs) :=
  allNormal_joinTexts (normal_of_mem_splicedAll cs)

/-! ### The normal form has the same markup -/

section Markup

open LiveTemplate.Markup

theorem renderNodes_prepend (raw : Bool) (n : Node) (rest : List Node) :
    renderNodes raw (prepend n rest) = renderNode raw n ++ renderNodes raw rest := by
  rcases prepend_cases n rest with ⟨data, behind, more, rfl, rfl, joined⟩ | ⟨-, same⟩
  · simp only [joined, renderNodes, renderNode_eq_showText, String.toList_append,
      showText_append, List.append_assoc]
  · rw [same, renderNodes]

theorem renderNodes_joinTexts (raw : Bool) (ns : List Node) :
    renderNodes raw (joinTexts ns) = renderNodes raw ns := by
  induction ns with
  | nil => rfl
  | cons n ns ih =>
    rw [joinTexts, List.foldr_cons, renderNodes_prepend, renderNodes, ← ih, joinTexts]

mutual

theorem renderNodes_spliced (raw : Bool) :
    (n : Node) → renderNodes raw (spliced n) = renderNode raw n
  | text data => by
    rw [spliced]
    split
    · rename_i empty
      cases raw <;> simp [empty, renderNodes, renderNode, escapeText]
    · simp [renderNodes]
  | comment data => by simp [spliced, renderNodes]
  | element tag attributes _ cs => by
    simp only [spliced, renderNodes, renderNode, renderNodes_joinTexts,
      renderNodes_splicedAll (isRawText tag) cs, List.append_nil]
  | fragment cs => by
    rw [spliced, renderNode]
    exact renderNodes_splicedAll raw cs
  | bare | bareParent _ => by simp [spliced, renderNodes, renderNode]

theorem renderNodes_splicedAll (raw : Bool) :
    (cs : List Node) → renderNodes raw (splicedAll cs) = renderNodes raw cs
  | [] => rfl
  | n :: rest => by
    rw [splicedAll, renderNodes_append, renderNodes_spliced raw n,
      renderNodes_splicedAll raw rest, renderNodes]

end

theorem renderNodes_normalForm (raw : Bool) (cs : List Node) :
    renderNodes raw (normalForm cs) = renderNodes raw cs := by
  rw [normalForm, renderNodes_joinTexts, renderNodes_splicedAll]

end Markup

/-! ### The normal form is clean -/

theorem textContents_prepend (n : Node) (rest : List Node) :
    textContents (prepend n rest) = n.textContent ++ textContents rest := by
  rcases prepend_cases n rest with ⟨data, behind, more, rfl, rfl, joined⟩ | ⟨-, same⟩
  · rw [joined]
    simp [textContents, textContent, String.append_assoc]
  · rw [same, textContents]

theorem textContents_joinTexts (ns : List Node) :
    textContents (joinTexts ns) = textContents ns := by
  induction ns with
  | nil => rfl
  | cons n ns ih =>
    rw [joinTexts, List.foldr_cons, textContents_prepend, textContents, ← ih, joinTexts]

theorem forall_mem_prepend {p : Node → Prop} (texts : ∀ data, p (text data)) {n : Node}
    {rest : List Node} (here : p n) (others : ∀ m ∈ rest, p m) : ∀ m ∈ prepend n rest, p m := by
  rcases prepend_cases n rest with ⟨data, behind, more, rfl, rfl, joined⟩ | ⟨-, same⟩
  · rw [joined, List.forall_mem_cons]
    exact ⟨texts _, fun m member => others m (List.mem_cons_of_mem _ member)⟩
  · rw [same, List.forall_mem_cons]
    exact ⟨here, others⟩

theorem forall_mem_joinTexts {p : Node → Prop} (texts : ∀ data, p (text data))
    {ns : List Node} (all : ∀ n ∈ ns, p n) : ∀ m ∈ joinTexts ns, p m := by
  induction ns with
  | nil => simp [joinTexts]
  | cons n ns ih =>
    rw [List.forall_mem_cons] at all
    exact forall_mem_prepend texts all.1 (ih all.2)

/-- Texts stay texts, and together they say the same. -/
theorem texts_splicedAll {cs : List Node} (texts : ∀ c ∈ cs, c.isText) :
    (∀ m ∈ splicedAll cs, m.isText) ∧ textContents (splicedAll cs) = textContents cs := by
  induction cs with
  | nil => exact ⟨by simp [splicedAll], rfl⟩
  | cons c cs ih =>
    rw [List.forall_mem_cons] at texts
    obtain ⟨isText, others⟩ := texts
    obtain ⟨stay, same⟩ := ih others
    cases c <;> cases isText
    rename_i data
    by_cases empty : data = ""
    · simpa [splicedAll, spliced, empty, textContents, textContent] using ⟨stay, same⟩
    · simpa [splicedAll, spliced, empty, textContents, textContent, isText] using ⟨stay, same⟩

theorem PlainContent.normalForm {cs : List Node} (plain : PlainContent cs) :
    PlainContent (normalForm cs) := by
  obtain ⟨stay, same⟩ := texts_splicedAll plain.1
  refine ⟨forall_mem_joinTexts (fun _ => rfl) stay, ?_⟩
  rw [Node.normalForm, textContents_joinTexts, same]
  exact plain.2

mutual

theorem clean_of_mem_spliced : (n : Node) → n.Clean → ∀ m ∈ spliced n, m.Clean
  | text data, _ => by
    rw [spliced]
    split <;> simp [Clean]
  | comment data, clean => by simpa [spliced, Clean] using clean
  | element tag attributes _ cs, clean => by
    obtain ⟨plainTag, names, void, raw, inner⟩ := clean
    rw [spliced, List.forall_mem_singleton]
    refine ⟨plainTag, names, fun isVoid => ?_, fun isRaw => (raw isRaw).normalForm,
      allClean_iff.2 (forall_mem_joinTexts (fun _ => trivial) (clean_of_mem_splicedAll cs inner))⟩
    rw [void isVoid]
    rfl
  | fragment cs, clean => by
    rw [spliced]
    exact clean_of_mem_splicedAll cs clean

theorem clean_of_mem_splicedAll : (cs : List Node) → AllClean cs → ∀ m ∈ splicedAll cs, m.Clean
  | [], _ => by simp [splicedAll]
  | n :: rest, clean => by
    rw [splicedAll, List.forall_mem_append]
    exact ⟨clean_of_mem_spliced n clean.1, clean_of_mem_splicedAll rest clean.2⟩

end

theorem allClean_normalForm {cs : List Node} (clean : AllClean cs) : AllClean (normalForm cs) :=
  allClean_iff.2 (forall_mem_joinTexts (fun _ => trivial) (clean_of_mem_splicedAll cs clean))

end LiveTemplate.Node
