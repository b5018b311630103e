import LiveTemplate.Markup.Tree
import LiveTemplate.Proofs.Node.Attributes

/-! Trees that can be written as markup and read back. Their tags and attribute names are spelled
in plain characters, comments do not show the end of a comment, and the text of a raw-text element
does not begin an end tag. Other text and all attribute values are arbitrary. -/
namespace LiveTemplate

namespace Markup

def isSmallLetter (c : Char) : Bool := 'a' ≤ c && c ≤ 'z'

def isPlainTagChar (c : Char) : Bool := isSmallLetter c || Text.isDigit c || c = '-'

def isPlainNameChar (c : Char) : Bool :=
  isPlainTagChar c || c = '_' || c = '.' || c = ':' || c = '?' || c = '@'

/-- A small letter, then small letters, digits and hyphens. -/
def PlainTag (tag : String) : Prop :=
  tag.toList.head?.any isSmallLetter ∧ tag.toList.all isPlainTagChar

def PlainName (name : String) : Prop := name ≠ "" ∧ name.toList.all isPlainNameChar

instance (tag : String) : Decidable (PlainTag tag) := inferInstanceAs (Decidable (_ ∧ _))

instance (name : String) : Decidable (PlainName name) := inferInstanceAs (Decidable (_ ∧ _))

theorem PlainTag.exists_cons {tag : String} (plain : PlainTag tag) :
    ∃ c more, tag.toList = c :: more ∧ isSmallLetter c := by
  obtain ⟨c, first, small⟩ := (Option.any_eq_true _ _).1 plain.1
  obtain ⟨more, whole⟩ := List.head?_eq_some_iff.1 first
  exact ⟨c, more, whole, small⟩

theorem PlainTag.chars {tag : String} (plain : PlainTag tag) :
    ∀ c ∈ tag.toList, isPlainTagChar c := List.all_eq_true.1 plain.2

theorem PlainName.chars {name : String} (plain : PlainName name) :
    ∀ c ∈ name.toList, isPlainNameChar c := List.all_eq_true.1 plain.2

/-- What holds of the 128 characters of ASCII. -/
theorem of_ascii {p : Char → Prop} (all : ∀ n : Fin 128, p (Char.ofNat n)) {c : Char}
    (ascii : c.toNat < 128) : p c := by
  have at_c := all ⟨c.toNat, ascii⟩
  rwa [Char.ofNat_toNat] at at_c

theorem ascii_of_isPlainNameChar {c : Char} (plain : isPlainNameChar c) : c.toNat < 128 := by
  have below (d : Char) (le : c ≤ d) (bound : d.toNat < 128) : c.toNat < 128 :=
    Nat.lt_of_le_of_lt le bound
  simp only [isPlainNameChar, isPlainTagChar, isSmallLetter, Text.isDigit, Bool.or_eq_true,
    Bool.and_eq_true, decide_eq_true_eq] at plain
  obtain (((((((⟨-, le⟩ | ⟨-, le⟩) | rfl) | rfl) | rfl) | rfl) | rfl) | rfl) := plain
  · exact below _ le (by decide)
  · exact below _ le (by decide)
  all_goals decide

theorem isPlainNameChar_of_isPlainTagChar {c : Char} (plain : isPlainTagChar c) :
    isPlainNameChar c := by
  simp [isPlainNameChar, plain]

theorem attributeNameChar_of_plain {c : Char} (plain : isPlainNameChar c) :
    isAttributeNameChar c :=
  of_ascii (p := fun c => isPlainNameChar c → isAttributeNameChar c) (by decide)
    (ascii_of_isPlainNameChar plain) plain

theorem isAttributeNameChar_iff {c : Char} :
    isAttributeNameChar c ↔ Text.isBlank c = false ∧ c ≠ '/' ∧ c ≠ '=' ∧ c ≠ '>' := by
  simp [isAttributeNameChar, and_assoc]

theorem toLower_of_plain {c : Char} (plain : isPlainNameChar c) : c.toLower = c :=
  of_ascii (p := fun c => isPlainNameChar c → c.toLower = c) (by decide)
    (ascii_of_isPlainNameChar plain) plain

theorem tagNameChar_of_plain {c : Char} (plain : isPlainTagChar c) : isTagNameChar c :=
  of_ascii (p := fun c => isPlainTagChar c → isTagNameChar c) (by decide)
    (ascii_of_isPlainNameChar (isPlainNameChar_of_isPlainTagChar plain)) plain

theorem endNameChar_of_plain {c : Char} (plain : isPlainTagChar c) : isEndNameChar c := by
  simp only [isPlainTagChar, isSmallLetter, Bool.or_eq_true] at plain
  simp only [isEndNameChar, isLetter, Bool.or_eq_true]
  tauto

theorem isLetter_of_isSmallLetter {c : Char} (small : isSmallLetter c) : isLetter c := by
  simp only [isLetter, Bool.or_eq_true]
  exact .inl small

theorem lowerBehind_plain (before : List Char) {cs : List Char}
    (plain : ∀ c ∈ cs, isPlainNameChar c) : Text.lowerBehind before cs = cs := by
  induction cs generalizing before with
  | nil => rfl
  | cons c cs ih =>
    rw [List.forall_mem_cons] at plain
    have ascii := ascii_of_isPlainNameChar plain.1
    have notDotted : c ≠ 'İ' := by rintro rfl; exact absurd ascii (by decide)
    have notSigma : c ≠ 'Σ' := by rintro rfl; exact absurd ascii (by decide)
    have here : Text.lowerChar c = c := by
      rw [Text.lowerChar, if_pos ascii, toLower_of_plain plain.1]
    simp only [Text.lowerBehind, if_neg notDotted, if_neg notSigma, here, ih _ plain.2,
      List.singleton_append]

theorem lower_plain {cs : List Char} (plain : ∀ c ∈ cs, isPlainNameChar c) :
    Text.lower cs = cs := lowerBehind_plain [] plain

end Markup

namespace Attributes

/-- Every attribute has a name, and a plain one. -/
def PlainNames (attributes : Attributes) : Prop :=
  ∀ name ∈ attributes.map Prod.fst, ∃ text ∈ name, Markup.PlainName text

/-- The names are plain, and none occurs twice. The values do not matter. -/
def Clean (attributes : Attributes) : Prop := attributes.Keyed ∧ attributes.PlainNames

instance (attributes : Attributes) : Decidable attributes.PlainNames :=
  inferInstanceAs (Decidable (∀ name ∈ attributes.map Prod.fst, _))

instance (attributes : Attributes) : Decidable attributes.Clean :=
  inferInstanceAs (Decidable (_ ∧ _))

theorem PlainNames.exists_name {name : FieldName} {value : Option String}
    {attributes : Attributes} (plain : PlainNames ((name, value) :: attributes)) :
    (∃ text, name = some text ∧ Markup.PlainName text) ∧ PlainNames attributes :=
  List.forall_mem_cons.1 plain

end Attributes

namespace Node

/-- Text nodes that together do not begin an end tag. -/
def PlainContent (cs : List Node) : Prop :=
  (∀ c ∈ cs, c.isText) ∧ ¬ ['<', '/'] <:+: (textContents cs).toList

instance (cs : List Node) : Decidable (PlainContent cs) :=
  have := List.instDecidableIsInfixOfDecidableEq ['<', '/'] (textContents cs).toList
  inferInstanceAs (Decidable ((∀ c ∈ cs, c.isText) ∧ ¬ ['<', '/'] <:+: (textContents cs).toList))

mutual

/-- The node can be written and read back: void elements are empty, and raw-text elements hold
plain content only. -/
def Clean : Node → Prop
  | text _ => True
  | comment data => '>' ∉ data.toList
  | element tag attributes _ cs =>
    Markup.PlainTag tag ∧ attributes.Clean ∧ (Markup.isVoid tag → cs = []) ∧
      (Markup.isRawText tag → PlainContent cs) ∧ AllClean cs
  | fragment cs => AllClean cs
  | bare | bareParent _ => False

def AllClean : List Node → Prop
  | [] => True
  | n :: rest => Clean n ∧ AllClean rest

end

mutual

def decidableClean : (n : Node) → Decidable (Clean n)
  | text _ => .isTrue trivial
  | comment data => inferInstanceAs (Decidable ('>' ∉ data.toList))
  | element tag attributes _ cs =>
    have := decidableAllClean cs
    have : Decidable (cs = []) := decidable_of_iff (cs.isEmpty = true) List.isEmpty_iff
    inferInstanceAs (Decidable (Markup.PlainTag tag ∧ attributes.Clean ∧
      (Markup.isVoid tag → cs = []) ∧ (Markup.isRawText tag → PlainContent cs) ∧ AllClean cs))
  | fragment cs => decidableAllClean cs
  | bare | bareParent _ => .isFalse id

def decidableAllClean : (cs : List Node) → Decidable (AllClean cs)
  | [] => .isTrue trivial
  | n :: rest =>
    have := decidableClean n
    have := decidableAllClean rest
    inferInstanceAs (Decidable (Clean n ∧ AllClean rest))

end

instance (n : Node) : Decidable n.Clean := decidableClean n

instance (cs : List Node) : Decidable (AllClean cs) := decidableAllClean cs

theorem allClean_iff {cs : List Node} : AllClean cs ↔ ∀ c ∈ cs, c.Clean := by
  induction cs with
  | nil => simp [AllClean]
  | cons n rest ih => simp [AllClean, ih]

end Node
end LiveTemplate
