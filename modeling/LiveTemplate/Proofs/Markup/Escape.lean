import LiveTemplate.Markup.Escape
import LiveTemplate.Markup.Reference

/-! What escaping does, resolving undoes. The references that escaping writes are closed by a
semicolon, so each is read as far as it was written and the text behind it does not matter. -/
namespace LiveTemplate.Markup

/-- A known name of at most `nameLimit` characters with its semicolon stands for its text. -/
theorem namedReference_closed {name named : List Char} (known : closedName? name = some named)
    (chars : name.all isNameChar) (short : name.length < nameLimit) (rest : List Char) :
    namedReference (name ++ ';' :: rest) = (named, rest) := by
  have window : (name ++ ';' :: rest).take nameLimit =
      name ++ ';' :: rest.take (nameLimit - name.length - 1) := by
    obtain ⟨spare, room⟩ : ∃ spare, nameLimit - name.length = spare + 1 :=
      ⟨nameLimit - name.length - 1, by omega⟩
    rw [List.take_append, List.take_of_length_le (by omega), room, List.take_succ_cons,
      Nat.add_sub_cancel]
  have run : ((name ++ ';' :: rest).take nameLimit).takeWhile isNameChar = name := by
    rw [window, List.takeWhile_append_of_pos (List.all_eq_true.1 chars),
      List.takeWhile_cons_of_neg (by decide), List.append_nil]
  simp only [namedReference, run, List.drop_left, takeSemicolon, if_true, known]

/-- An escape of single characters that is read back, whatever stands behind it. -/
structure Undone (escape : Char → List Char) : Prop where
  unescape : ∀ c rest, unescape (escape c ++ rest) = c :: unescape rest
  oversized : ∀ c rest, oversized? (escape c ++ rest) = oversized? rest

theorem Undone.resolve {escape : Char → List Char} (undone : Undone escape) (cs : List Char) :
    resolve (cs.flatMap escape) = .ok cs := by
  have read : oversized? (cs.flatMap escape) = none ∧
      Markup.unescape (cs.flatMap escape) = cs := by
    induction cs with
    | nil => exact ⟨rfl, by rw [List.flatMap_nil, Markup.unescape]⟩
    | cons c cs ih =>
      rw [List.flatMap_cons, undone.oversized, undone.unescape]
      exact ⟨ih.1, by rw [ih.2]⟩
  rw [Markup.resolve, read.1, read.2]

theorem unescape_cons {c : Char} (plain : c ≠ '&') (rest : List Char) :
    unescape (c :: rest) = c :: unescape rest := by
  rw [unescape, if_neg plain]

theorem oversized?_append (cs : List Char) (plain : '&' ∉ cs) (rest : List Char) :
    oversized? (cs ++ rest) = oversized? rest := by
  induction cs with
  | nil => rfl
  | cons c cs ih =>
    rw [List.mem_cons, not_or] at plain
    rw [List.cons_append, oversized?, ih plain.2]
    rintro number rfl
    exact absurd rfl plain.1

section Named

variable (name : List Char) (chars : name.all isNameChar)

include chars

theorem reference_named (rest : List Char) :
    reference (name ++ ';' :: rest) = namedReference (name ++ ';' :: rest) := by
  unfold reference
  split
  · rename_i number whole
    cases name with
    | nil => cases whole
    | cons first more =>
      cases whole
      exact absurd (List.all_eq_true.1 chars '#' List.mem_cons_self) (by decide)
  · rfl

theorem unescape_named {c : Char} (known : closedName? name = some [c])
    (short : name.length < nameLimit) (rest : List Char) :
    unescape ('&' :: (name ++ [';']) ++ rest) = c :: unescape rest := by
  have read : reference (name ++ ';' :: rest) = ([c], rest) := by
    rw [reference_named name chars, namedReference_closed known chars short]
  rw [List.cons_append, List.append_assoc, List.singleton_append, unescape, if_pos rfl, read]
  rfl

theorem oversized?_named (rest : List Char) :
    oversized? ('&' :: (name ++ [';']) ++ rest) = oversized? rest := by
  have plain : '&' ∉ name ++ [';'] := by
    intro member
    rcases List.mem_append.1 member with member | member
    · exact absurd (List.all_eq_true.1 chars _ member) (by decide)
    · exact absurd member (by decide)
  rw [List.cons_append, oversized?, oversized?_append _ plain]
  rintro number - whole
  cases name with
  | nil => cases whole
  | cons first more =>
    cases whole
    exact absurd (List.all_eq_true.1 chars '#' List.mem_cons_self) (by decide)

end Named

theorem undone_escapeTextChar : Undone escapeTextChar where
  unescape c rest := by
    unfold escapeTextChar
    split
    · exact unescape_named ['a', 'm', 'p'] (by decide) (by decide) (by decide) rest
    · exact unescape_named ['l', 't'] (by decide) (by decide) (by decide) rest
    · exact unescape_named ['g', 't'] (by decide) (by decide) (by decide) rest
    · rename_i ampersand _ _
      exact unescape_cons ampersand rest
  oversized c rest := by
    unfold escapeTextChar
    split
    · exact oversized?_named ['a', 'm', 'p'] (by decide) rest
    · exact oversized?_named ['l', 't'] (by decide) rest
    · exact oversized?_named ['g', 't'] (by decide) rest
    · rename_i ampersand _ _
      exact oversized?_append [c] (by simpa using Ne.symm ampersand) rest

theorem undone_escapeAttributeChar : Undone escapeAttributeChar where
  unescape c rest := by
    unfold escapeAttributeChar
    split
    · exact unescape_named ['q', 'u', 'o', 't'] (by decide) (by decide) (by decide) rest
    · have read : reference ('#' :: 'x' :: '2' :: '7' :: ';' :: rest) = (['\x27'], rest) := by
        rfl
      rw [List.cons_append, unescape, if_pos rfl]
      simp only [List.cons_append, List.nil_append, read]
    · exact undone_escapeTextChar.unescape c rest
  oversized c rest := by
    unfold escapeAttributeChar
    split
    · exact oversized?_named ['q', 'u', 'o', 't'] (by decide) rest
    -- No decimal digit stands behind the sign, so the ampersand is passed like any other character.
    · exact oversized?_append ['#', 'x', '2', '7', ';'] (by decide) rest
    · exact undone_escapeTextChar.oversized c rest

/-- What an escape shows is the character itself or part of a reference. -/
theorem mem_escapeTextChar {c d : Char} (member : d ∈ escapeTextChar c) :
    d ∈ ['&', 'a', 'm', 'p', 'l', 't', 'g', ';'] ∨ (d = c ∧ c ≠ '<') := by
  unfold escapeTextChar at member
  split at member
  case h_4 opening _ => exact .inr ⟨List.mem_singleton.1 member, opening⟩
  all_goals
    left
    simp only [List.mem_cons, List.not_mem_nil, or_false] at member ⊢
    rcases member with rfl | rfl | rfl | rfl | rfl <;> simp

/-- Text shows no angle bracket that could begin markup. -/
theorem opening_notMem_escapeText (cs : List Char) : '<' ∉ escapeText cs := by
  rw [escapeText, List.mem_flatMap]
  rintro ⟨c, -, member⟩
  rcases mem_escapeTextChar member with other | ⟨rfl, notOpening⟩
  · exact absurd other (by decide)
  · exact notOpening rfl

/-- A value shows no quote that could end it. -/
theorem quote_notMem_escapeAttribute (cs : List Char) : '"' ∉ escapeAttribute cs := by
  rw [escapeAttribute, List.mem_flatMap]
  rintro ⟨c, -, member⟩
  unfold escapeAttributeChar at member
  split at member
  · exact absurd member (by decide)
  · exact absurd member (by decide)
  · rename_i notQuote _
    rcases mem_escapeTextChar member with other | ⟨rfl, -⟩
    · exact absurd other (by decide)
    · exact notQuote rfl

theorem resolve_escapeText (cs : List Char) : resolve (escapeText cs) = .ok cs :=
  undone_escapeTextChar.resolve cs

theorem eq_nil_of_escapeText {cs : List Char} (hidden : escapeText cs = []) : cs = [] := by
  have back := resolve_escapeText cs
  rw [hidden] at back
  exact Except.ok.inj (back.symm.trans (resolve_escapeText []))

theorem resolve_escapeAttribute (cs : List Char) : resolve (escapeAttribute cs) = .ok cs :=
  undone_escapeAttributeChar.resolve cs

end LiveTemplate.Markup
