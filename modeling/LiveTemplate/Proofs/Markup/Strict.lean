import LiveTemplate.Proofs.Markup.Building

/-! Strict and lenient builders side by side. They agree on every token but a stray end tag, one
that names no open element and none that is void: there a lenient builder does nothing and a
strict one stops. So a strict run is the lenient one up to the first stray end tag. -/
namespace LiveTemplate.Markup.Builder

/-- An end tag of this name would be stray: its element is not void, and none of it is open. -/
def Stray (tag : String) (b : Builder) : Prop :=
  isVoid tag = false ∧ ∀ n ∈ b.openNodes, n.tag? ≠ some tag

/-- Wherever an end tag stands in the tokens, it is not stray where the tokens before it lead a
lenient builder. -/
def FreeOfStrays (tokens : List Token) (b : Builder) : Prop :=
  ∀ before tag place behind c, tokens = before ++ .endTag tag place :: behind →
    takeAll false before b = .ok c → ¬ Stray tag c

theorem closedBy?_eq_none_iff (tag : String) (b : Builder) :
    b.closedBy? tag = none ↔ ∀ n ∈ b.openNodes, n.tag? ≠ some tag := by
  rcases closedBy?_cases tag b with
    ⟨count, found, outer, e, inner, whole, tagged, -⟩ | ⟨missing, others⟩
  · refine ⟨fun missing => ?_, fun others => ?_⟩
    · rw [missing] at found
      cases found
    · exact absurd tagged (others e (by rw [whole]; simp))
  · exact iff_of_true missing others

/-- What a strict builder refuses are the stray end tags. -/
theorem take_strict (b : Builder) (token : Token) :
    (∃ tag place, token = .endTag tag place ∧ Stray tag b ∧
        b.take true token = .error (.strayEndTag tag place)) ∨
      (∀ tag place, token = .endTag tag place → ¬ Stray tag b) ∧
        b.take true token = b.take false token := by
  cases token with
  | endTag tag place =>
    rw [take, take, endTag, endTag]
    cases closing : b.closedBy? tag with
    | some count =>
      refine .inr ⟨?_, rfl⟩
      rintro _ _ ⟨⟩ ⟨-, unopened⟩
      rw [← closedBy?_eq_none_iff, closing] at unopened
      cases unopened
    | none =>
      cases void : isVoid tag with
      | false =>
        exact .inl ⟨tag, place, rfl, ⟨void, (closedBy?_eq_none_iff tag b).mp closing⟩, rfl⟩
      | true =>
        refine .inr ⟨?_, rfl⟩
        rintro _ _ ⟨⟩ ⟨notVoid, -⟩
        rw [void] at notVoid
        cases notVoid
  | startTag | emptyTag | data | comment =>
    refine .inr ⟨fun _ _ same => ?_, rfl⟩
    cases same

theorem FreeOfStrays.nil (b : Builder) : FreeOfStrays [] b := by
  intro before tag place behind c split
  cases before <;> cases split

theorem FreeOfStrays.cons {token : Token} {tokens : List Token} {b c : Builder}
    (here : ∀ tag place, token = .endTag tag place → ¬ Stray tag b)
    (taken : b.take false token = .ok c) (later : FreeOfStrays tokens c) :
    FreeOfStrays (token :: tokens) b := by
  intro before tag place behind d split led
  cases before with
  | nil =>
    cases led
    exact here tag place (List.cons.inj split).1
  | cons first before =>
    obtain ⟨rfl, rest⟩ := List.cons.inj split
    rw [takeAll, taken] at led
    exact later before tag place behind d rest led

/-- A strict run stops at the first stray end tag and is the lenient run if there is none. -/
theorem takeAll_strict (tokens : List Token) (b : Builder) :
    (∃ before tag place behind c, tokens = before ++ .endTag tag place :: behind ∧
        FreeOfStrays before b ∧ Stray tag c ∧ takeAll false before b = .ok c ∧
        takeAll true before b = .ok c ∧
        takeAll true tokens b = .error (.strayEndTag tag place)) ∨
      FreeOfStrays tokens b ∧ takeAll true tokens b = takeAll false tokens b := by
  induction tokens generalizing b with
  | nil => exact .inr ⟨.nil b, rfl⟩
  | cons token tokens ih =>
    rcases take_strict b token with ⟨tag, place, rfl, stray, refused⟩ | ⟨here, agree⟩
    · refine .inl ⟨[], tag, place, tokens, b, rfl, .nil b, stray, rfl, rfl, ?_⟩
      rw [takeAll, refused]
    · obtain ⟨c, taken, -⟩ := acts_of_take b token
      rw [taken] at agree
      rcases ih c with ⟨before, tag, place, behind, d, rfl, rest, stray, lenient, strict, stopped⟩ |
        ⟨rest, same⟩
      · refine .inl ⟨token :: before, tag, place, behind, d, rfl, rest.cons here taken, stray, ?_,
          ?_, ?_⟩
        · rw [takeAll, taken]; exact lenient
        · rw [takeAll, agree]; exact strict
        · rw [takeAll, agree]; exact stopped
      · refine .inr ⟨rest.cons here taken, ?_⟩
        rw [takeAll, takeAll, agree, taken]
        exact same

/-- A strict builder stops exactly at the first stray end tag, where a lenient one would ignore it;
without one it builds what a lenient builder does. In particular it stops at no void end tag, and
at no element that is left open. -/
theorem strict_refines_lenient (tokens : List Token) :
    (∀ error, takeAll true tokens .empty = .error error ↔
      ∃ before tag place behind c, tokens = before ++ .endTag tag place :: behind ∧
        FreeOfStrays before .empty ∧ Stray tag c ∧ takeAll false before .empty = .ok c ∧
        takeAll true before .empty = .ok c ∧ error = .strayEndTag tag place) ∧
    (FreeOfStrays tokens .empty → takeAll true tokens .empty = takeAll false tokens .empty) ∧
    ((∀ tag place, .endTag tag place ∈ tokens → isVoid tag = true) →
      ∃ b, takeAll true tokens .empty = .ok b ∧ takeAll false tokens .empty = .ok b) := by
  obtain ⟨lenient, taken, -⟩ := BuiltFrom.takeAll (b := .empty) Wrote.nil tokens
  have refines := takeAll_strict tokens .empty
  have alike (free : FreeOfStrays tokens .empty) :
      takeAll true tokens .empty = takeAll false tokens .empty := by
    rcases refines with ⟨before, tag, place, behind, c, split, -, stray, led, -⟩ | ⟨-, same⟩
    · exact absurd stray (free before tag place behind c split led)
    · exact same
  refine ⟨fun error => ⟨fun stopped => ?_, ?_⟩, alike, fun void => ?_⟩
  · rcases refines with
      ⟨before, tag, place, behind, c, split, free, stray, led, strict, refused⟩ | ⟨-, same⟩
    · rw [stopped] at refused
      exact ⟨before, tag, place, behind, c, split, free, stray, led, strict,
        Except.error.inj refused⟩
    · rw [stopped, taken] at same
      cases same
  · rintro ⟨before, tag, place, behind, c, rfl, -, stray, -, strict, rfl⟩
    rw [takeAll_append strict, takeAll]
    rcases take_strict c (.endTag tag place) with ⟨_, _, ⟨⟩, -, refused⟩ | ⟨never, -⟩
    · rw [refused]
    · exact absurd stray (never tag place rfl)
  · have free : FreeOfStrays tokens .empty := by
      rintro before tag place behind c rfl - ⟨notVoid, -⟩
      rw [void tag place (by simp)] at notVoid
      cases notVoid
    exact ⟨lenient, (alike free).trans taken, taken⟩

/-- The end tag of an outer element has closed the inner one before its own end tag comes. -/
example : takeAll true [.startTag "b" [], .startTag "i" [], .endTag "b" .start,
    .endTag "br" .start, .endTag "i" .start] .empty =
      .error (.strayEndTag "i" .start) := rfl

end LiveTemplate.Markup.Builder
