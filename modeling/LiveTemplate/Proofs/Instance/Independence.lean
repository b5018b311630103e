import LiveTemplate.Proofs.Instance.Edits
import LiveTemplate.Proofs.Instance.History
import LiveTemplate.Proofs.Part.Counterpart

/-! Parts depend on their own keys only. In two runs whose patches agree on the keys of a part, the
part keeps step with itself, whatever the other parts do in each; and a patch without any of its
keys leaves it alone. -/
namespace LiveTemplate

section Later

variable {σ : Type} {host : Host σ} (origins : Origins host)

theorem Evaluator.value_later (e : Evaluator) (s : σ) : origins.Later s (e.value host s).2 := by
  cases e with
  | lookup => exact .refl
  | call source function parameters callee =>
    cases callee with
    | function name => exact origins.lasting name _ s
    | _ => exact .refl

theorem Part.react_later (patch : Patch) (p : Part) (s : σ) :
    origins.Later s (p.react host patch s).2 := by
  cases moved : p.evaluator.changed host.shelf p.comparison patch with
  | false => rw [react_of_unchanged moved]; exact .refl
  | true =>
    cases absorbed : p.evaluator.absorb patch with
    | error error => rw [react_of_rejected moved absorbed]; exact .refl
    | ok taken => rw [react_of_absorbed moved absorbed]; exact taken.value_later origins s

theorem Instance.reactions_later (patch : Patch) (parts : List Part) (s : σ) :
    origins.Later s (reactions host patch parts s).2 := by
  induction parts generalizing s with
  | nil => exact .refl
  | cons p rest ih =>
    have first := p.react_later origins patch s
    cases outcome : (p.react host patch s).1.error? with
    | some error => rw [reactions_of_failed host patch outcome]; exact first
    | none => rw [reactions_of_passed host patch outcome]; exact first.trans (ih _)

end Later

namespace Evaluator

variable {shelf : Shelf} {how : Comparison} {patch : Patch} {e : Evaluator}

/-- A patch without any of the keys moves nothing. -/
theorem unchanged_of_absent (absent : ∀ key ∈ e.keys, patch.find? key = none) :
    e.changed shelf how patch = false := by
  have agree : patch.AgreeOn e.keys [] := absent
  rw [changed_eq_of_agree agree]
  cases e <;> simp [changed, moves, Entries.find?]

/-- Before the first patch there is nothing but the markers. -/
theorem kept_ofSource {text : String} {v : Value} (remembered : v ∈ (ofSource text).kept) :
    v = .unset ∨ v = .null := by
  unfold ofSource at remembered
  split at remembered
  · exact .inl (List.mem_singleton.mp remembered)
  · rcases List.mem_cons.mp remembered with subject | argument
    · exact .inl subject
    · obtain ⟨entry, given, rfl⟩ := List.mem_map.mp argument
      obtain ⟨name, -, rfl⟩ := List.mem_map.mp given
      exact .inr rfl

end Evaluator

namespace Part

variable {σ : Type} {host : Host σ} {origins : Origins host}

/-- No reaction changes which keys can matter to a part. -/
theorem keys_after_react (patch : Patch) (p : Part) (s : σ) :
    (p.after (p.react host patch s).1).evaluator.keys = p.evaluator.keys := by
  rcases react_cases host patch p s with
    ⟨-, idle⟩ | ⟨-, ⟨error, -, rejected⟩ | ⟨taken, absorbed, ⟨error, failed⟩ | ⟨raw, settled⟩⟩⟩
  · rw [idle]; rfl
  · rw [rejected]; rfl
  · rw [failed]; exact Evaluator.keys_of_absorb absorbed
  · rw [settled, evaluator_after_settle, Evaluator.keys_of_absorb absorbed]

/-- A part that is as it was made is its own counterpart. -/
theorem Counterpart.of_fresh {pairs : Identity → Identity → Prop} {p : Part} (fresh : p.Fresh) :
    Counterpart origins pairs p p where
  rest := rfl
  value := by rw [fresh]; exact .plain rfl
  apart := fun _ => rfl
  known := by
    intro v remembered
    rw [fresh] at remembered
    rcases Evaluator.kept_ofSource remembered with rfl | rfl
    · exact Origins.given_unset
    · exact Origins.given_null

end Part

namespace Instance

variable {σ : Type} {host : Host σ} {origins : Origins host} {place : Nat}

/-- In an update that nothing stops, a part has its turn between the others. -/
theorem turn_between (origins : Origins host) {patch : Patch} {parts : List Part} {s : σ}
    (fine : (reactions host patch parts s).1.findSome? Reaction.error? = none) {p : Part}
    (part : parts[place]? = some p) :
    ∃ t, (reactions host patch parts s).1[place]? = some (p.react host patch t).1 ∧
      origins.Later s t ∧
      origins.Later (p.react host patch t).2 (reactions host patch parts s).2 := by
  induction parts generalizing s place with
  | nil => cases part
  | cons first rest ih =>
    cases outcome : (first.react host patch s).1.error? with
    | some error =>
      rw [reactions_of_failed host patch outcome] at fine
      simp [outcome] at fine
    | none =>
      rw [reactions_of_passed host patch outcome] at fine ⊢
      cases place with
      | zero => cases part; exact ⟨s, rfl, .refl, reactions_later origins patch rest _⟩
      | succ place =>
        have passed : (reactions host patch rest (first.react host patch s).2).1.findSome?
            Reaction.error? = none := by simpa [outcome] using fine
        obtain ⟨t, reaction, before, behind⟩ := ih passed part
        exact ⟨t, reaction, (first.react_later origins patch s).trans before, behind⟩

/-- A patch that has none of the keys of a part leaves it alone, however the update ends. -/
theorem untouched {patch : Patch} {i : Instance} {p : Part} (part : i.parts[place]? = some p)
    (absent : ∀ key ∈ p.evaluator.keys, patch.find? key = none) (s : σ) :
    (i.update host patch s).updated.parts[place]? = some p ∧
      (reactions host patch i.parts s).1[place]?.bind Reaction.edit? = none := by
  have idle (t : σ) : (p.react host patch t).1 = .idle := by
    rw [Part.react_of_unchanged (Evaluator.unchanged_of_absent absent)]
  rw [update_eq]
  cases reached : (reactions host patch i.parts s).1[place]? with
  | none =>
    rw [getElem?_partsAfter_of_unreached reached]
    exact ⟨part, rfl⟩
  | some r =>
    obtain ⟨q, t, same, rfl⟩ := part_of_reaction reached
    cases part.symm.trans same
    rw [getElem?_partsAfter part reached, idle]
    exact ⟨rfl, rfl⟩

/-- The part at a place keeps step in two runs: after as many updates it is the same on both sides,
its evaluator included, but that its two values are twins; and in each update it makes an edit in
the one exactly if it makes a twin of it in the other. -/
structure InStep (host : Host σ) (pairs : Identity → Identity → Prop) (place : Nat)
    (patches partners : List Patch) (i j : Instance) (s t : σ) : Prop where
  parts : ∀ k, ∃ p q, (updateAll host (patches.take k) i s).updated.parts[place]? = some p ∧
    (updateAll host (partners.take k) j t).updated.parts[place]? = some q ∧
    q = { p with value := q.value } ∧ p.value.Twin pairs q.value
  edits : List.Forall₂ (Option.Rel (Edit.Twin pairs))
    ((history host patches i s).map (·[place]?.bind Reaction.edit?))
    ((history host partners j t).map (·[place]?.bind Reaction.edit?))

section Step

variable {pairs : Identity → Identity → Prop} {keys : List String} {patch partner : Patch}
  {i j : Instance} {s₀ s t₀ t : σ} {p q : Part}

/-- One update on either side. -/
theorem update_in_step (agree : patch.AgreeOn keys partner)
    (given : ∀ key ∈ keys, ∀ v, patch.find? key = some v → origins.Given v)
    (ready : origins.Ready s₀) (other : origins.Ready t₀)
    (corresponds : origins.Corresponds s₀ s t₀ t pairs)
    (fine : (i.update host patch s).error = none)
    (alsoFine : (j.update host partner t).error = none)
    (part : i.parts[place]? = some p) (partnerPart : j.parts[place]? = some q)
    (own : p.evaluator.keys = keys) (alike : Part.Counterpart origins pairs p q) :
    ∃ others p' q', (∀ a b, pairs a b → others a b) ∧
      origins.Corresponds s₀ (i.update host patch s).state t₀ (j.update host partner t).state
        others ∧
      (i.update host patch s).updated.parts[place]? = some p' ∧
      (j.update host partner t).updated.parts[place]? = some q' ∧
      p'.evaluator.keys = keys ∧ Part.Counterpart origins others p' q' ∧
      Option.Rel (Edit.Twin others)
        ((reactions host patch i.parts s).1[place]?.bind Reaction.edit?)
        ((reactions host partner j.parts t).1[place]?.bind Reaction.edit?) := by
  subst own
  rw [update_eq] at fine alsoFine ⊢
  rw [update_eq]
  obtain ⟨u, reaction, before, behind⟩ := turn_between origins fine part
  obtain ⟨v, partnerReaction, earlier, later⟩ := turn_between origins alsoFine partnerPart
  obtain ⟨others, more, now, reacted⟩ :=
    alike.react (corresponds.later before earlier) ready other agree given
  refine ⟨others, _, _, more, now.later behind later, getElem?_partsAfter part reaction,
    getElem?_partsAfter partnerPart partnerReaction, p.keys_after_react patch u, reacted.parts, ?_⟩
  rw [reaction, partnerReaction]
  exact reacted.reactions.edit?

/-- A run on either side, from counterparts on. -/
theorem run_in_step {patches partners : List Patch}
    (agree : List.Forall₂ (Patch.AgreeOn keys) patches partners)
    (given : ∀ patch ∈ patches, ∀ key ∈ keys, ∀ v, patch.find? key = some v → origins.Given v)
    (ready : origins.Ready s₀) (other : origins.Ready t₀)
    (corresponds : origins.Corresponds s₀ s t₀ t pairs)
    (fine : (updateAll host patches i s).error = none)
    (alsoFine : (updateAll host partners j t).error = none)
    (part : i.parts[place]? = some p) (partnerPart : j.parts[place]? = some q)
    (own : p.evaluator.keys = keys) (alike : Part.Counterpart origins pairs p q) :
    ∃ others, (∀ a b, pairs a b → others a b) ∧
      origins.Corresponds s₀ (updateAll host patches i s).state t₀
        (updateAll host partners j t).state others ∧
      InStep host others place patches partners i j s t := by
  induction agree generalizing i j s t pairs p q with
  | nil =>
    refine ⟨pairs, fun _ _ pair => pair, corresponds, ⟨fun k => ?_, .nil⟩⟩
    rw [List.take_nil]
    exact ⟨p, q, part, partnerPart, alike.rest, alike.value⟩
  | @cons patch partner rest later here _ ih =>
    obtain ⟨ours, others⟩ := List.forall_mem_cons.mp given
    obtain ⟨passed, behind⟩ := passed_of_updateAll host fine
    obtain ⟨alsoPassed, alsoBehind⟩ := passed_of_updateAll host alsoFine
    obtain ⟨first, p', q', more, now, found, alsoFound, kept, again, edit⟩ :=
      update_in_step here ours ready other corresponds passed alsoPassed part partnerPart own alike
    obtain ⟨all, further, ended, run⟩ := ih others now behind alsoBehind found alsoFound kept again
    refine ⟨all, fun a b pair => further a b (more a b pair), ?_, ⟨fun k => ?_, ?_⟩⟩
    · rw [updateAll_of_passed host passed, updateAll_of_passed host alsoPassed]
      exact ended
    · cases k with
      | zero =>
        exact ⟨p, q, part, partnerPart, alike.rest,
          alike.value.mono fun a b pair => further a b (more a b pair)⟩
      | succ k =>
        rw [List.take_succ_cons, List.take_succ_cons, updateAll_of_passed host passed,
          updateAll_of_passed host alsoPassed]
        exact run.parts k
    · rw [history_of_passed host passed, history_of_passed host alsoPassed]
      exact .cons (Edit.twins_mono further edit) run.edits

end Step

/-- Parts depend on their own keys only. In two runs of an instance that nothing stops, a part keeps
step with itself if the patches agree on its keys at every step, and if what they give under
these keys are old objects and pure functions; what happens to other parts makes no difference.
A patch without any of its keys leaves a part alone at any time. -/
theorem own_keys_decide (origins : Origins host) {template : Template} {i : Instance}
    (made : ofTemplate template = .ok i) {p : Part} (part : i.parts[place]? = some p)
    {patches partners : List Patch}
    (agree : List.Forall₂ (Patch.AgreeOn p.evaluator.keys) patches partners)
    (given : ∀ patch ∈ patches, ∀ key ∈ p.evaluator.keys, ∀ v, patch.find? key = some v →
      origins.Given v)
    {s t : σ} (ready : origins.Ready s) (other : origins.Ready t)
    (fine : (updateAll host patches i s).error = none)
    (alsoFine : (updateAll host partners i t).error = none) :
    (∃ pairs, origins.Corresponds s (updateAll host patches i s).state t
        (updateAll host partners i t).state pairs ∧
      InStep host pairs place patches partners i i s t) ∧
    ∀ (j : Instance) (q : Part) (patch : Patch) (u : σ), j.parts[place]? = some q →
      (∀ key ∈ q.evaluator.keys, patch.find? key = none) →
        (j.update host patch u).updated.parts[place]? = some q ∧
          (reactions host patch j.parts u).1[place]?.bind Reaction.edit? = none := by
  have fresh := fresh_of_ofTemplate made (List.mem_of_getElem? part)
  obtain ⟨pairs, -, corresponds, run⟩ := run_in_step agree given ready other (.refl s t) fine
    alsoFine part part rfl (.of_fresh fresh)
  exact ⟨⟨pairs, corresponds, run⟩, fun j q patch u found absent => untouched found absent u⟩

/-- What is numbered below the floor was there before; new objects are numbered from there on. -/
def stockOrigins (floor : Nat) : Origins (Stock.host #[]) where
  old i := i < floor
  taken s i := i < s.nextIdentity
  lasting := by
    intro function vs s i held
    simp only [Stock.host, Stock.call]
    split
    · exact Nat.lt_succ_of_lt held
    · unfold Supply.newTuple
      split
      · exact held
      · exact Nat.lt_succ_of_lt held
    · exact held
    · exact held
  lists := by simp [Stock.host, Shelf.items]

theorem ready_iff {floor : Nat} {s : Supply} :
    (stockOrigins floor).Ready s ↔ floor ≤ s.nextIdentity := by
  constructor
  · intro ready
    by_contra below
    exact Nat.lt_irrefl _ (ready s.nextIdentity (Nat.lt_of_not_le below))
  · exact fun above i old => Nat.lt_of_lt_of_le old above

/-- Old objects go with themselves, and the next one of either state with that of the other. -/
def nextPairs (floor : Nat) (s t : Supply) (i j : Identity) : Prop :=
  i = j ∧ i < floor ∨ i = s.nextIdentity ∧ j = t.nextIdentity

/-- Two new lists are told apart by their identities only. -/
theorem list_pure (floor : Nat) : (stockOrigins floor).Pure "list" := by
  intro vs s t within ready other
  have here := ready_iff.mp ready
  have there := ready_iff.mp other
  refine ⟨nextPairs floor s t, ⟨?_, ?_, ⟨?_, ?_⟩, ?_, ?_⟩, ?_⟩
  · exact fun i held => Nat.lt_succ_of_lt held
  · exact fun i held => Nat.lt_succ_of_lt held
  · rintro i j k (⟨rfl, old⟩ | ⟨rfl, rfl⟩) (⟨rfl, new⟩ | ⟨rfl, same⟩)
    · rfl
    · exact absurd (same ▸ old) (Nat.not_lt.mpr there)
    · exact absurd new (Nat.not_lt.mpr there)
    · rfl
  · rintro i j k (⟨rfl, old⟩ | ⟨rfl, rfl⟩) (⟨rfl, new⟩ | ⟨same, rfl⟩)
    · rfl
    · exact absurd (same ▸ old) (Nat.not_lt.mpr here)
    · exact absurd new (Nat.not_lt.mpr here)
    · rfl
  · exact fun i old => .inl ⟨rfl, old⟩
  · rintro i j (pair | ⟨rfl, rfl⟩)
    · exact .inl pair
    · exact .inr ⟨⟨Nat.lt_irrefl _, Nat.lt_succ_self _⟩, ⟨Nat.lt_irrefl _, Nat.lt_succ_self _⟩⟩
  · have each : List.Forall₂ (Value.Twin (nextPairs floor s t)) vs vs :=
      List.forall₂_same.mpr fun v inside => (within v inside).twin fun i old => .inl ⟨rfl, old⟩
    exact .ok (.list (.inr ⟨rfl, rfl⟩) rfl fun v w => (List.forall₂_iff_zip.mp each).2)

/-- Two parts on one node that share a key. -/
def crossedTemplate : Template :=
  ⟨.element "p" [] [] [], [(0, [⟨.property, "make(word, more)", some "others"⟩,
    ⟨.property, "list(word)", some "items"⟩])]⟩

def crossedInstance : Instance :=
  ⟨crossedTemplate.content, bind crossedTemplate.table 0 crossedTemplate.content.spots⟩

def crossedPart : Part := .ofDescriptor [] .element ⟨.property, "list(word)", some "items"⟩

/-- An old list is given in the second patch, and nothing that matters in the last. -/
def crossedPatches : List Patch :=
  [[("list", .function "list"), ("word", .str "a")], [("word", .list 5 [])], [("more", .null)]]

/-- Here the first part makes lists, too. -/
def crossedPartners : List Patch :=
  [[("word", .str "a"), ("make", .function "list"), ("list", .function "list")],
    [("more", .int 1), ("word", .list 5 [])], []]

theorem crossedPart_keys : crossedPart.evaluator.keys = ["list", "word"] := by decide

theorem crossedPatches_agree :
    List.Forall₂ (Patch.AgreeOn crossedPart.evaluator.keys) crossedPatches crossedPartners := by
  rw [crossedPart_keys]
  have each {patch partner : Patch} (lists : patch.find? "list" = partner.find? "list")
      (words : patch.find? "word" = partner.find? "word") :
      patch.AgreeOn ["list", "word"] partner :=
    List.forall_mem_cons.mpr ⟨lists, List.forall_mem_singleton.mpr words⟩
  exact .cons (each rfl rfl) (.cons (each rfl rfl) (.cons (each rfl rfl) .nil))

theorem crossedPatches_given : ∀ patch ∈ crossedPatches, ∀ key ∈ crossedPart.evaluator.keys, ∀ v,
    patch.find? key = some v → (stockOrigins 10).Given v := by
  have entries : ∀ patch ∈ crossedPatches, ∀ e ∈ patch, (stockOrigins 10).Given e.2 := by
    have function : (stockOrigins 10).Given (.function "list") :=
      ⟨.plain rfl, by rintro name ⟨rfl⟩; exact list_pure 10⟩
    have list : (stockOrigins 10).Given (.list 5 []) :=
      ⟨.list ⟨rfl, show 5 < 10 by decide⟩ rfl (by simp), by rintro name ⟨⟩⟩
    have text : (stockOrigins 10).Given (.str "a") := ⟨.plain rfl, by rintro name ⟨⟩⟩
    simp [crossedPatches, function, list, text, Origins.given_null, or_imp, forall_and]
  exact fun patch member key _ v found => entries patch member _ (Entries.mem_of_find? found)

theorem crossedPart_in_step :
    ofTemplate crossedTemplate = .ok crossedInstance ∧
    crossedInstance.parts[1]? = some crossedPart ∧
    List.Forall₂ (Patch.AgreeOn crossedPart.evaluator.keys) crossedPatches crossedPartners ∧
    (∀ patch ∈ crossedPatches, ∀ key ∈ crossedPart.evaluator.keys, ∀ v,
      patch.find? key = some v → (stockOrigins 10).Given v) ∧
    (stockOrigins 10).Ready ⟨10, 0⟩ ∧ (stockOrigins 10).Ready ⟨12, 0⟩ ∧
    (updateAll (Stock.host #[]) crossedPatches crossedInstance ⟨10, 0⟩).error = none ∧
    (updateAll (Stock.host #[]) crossedPartners crossedInstance ⟨12, 0⟩).error = none ∧
    (∃ pairs, InStep (Stock.host #[]) pairs 1 crossedPatches crossedPartners crossedInstance
      crossedInstance ⟨10, 0⟩ ⟨12, 0⟩) ∧
    (crossedInstance.update (Stock.host #[]) [("more", .null)] ⟨10, 0⟩).updated.parts[1]? =
      some crossedPart := by
  have made : ofTemplate crossedTemplate = .ok crossedInstance := rfl
  have part : crossedInstance.parts[1]? = some crossedPart := rfl
  have ready : (stockOrigins 10).Ready ⟨10, 0⟩ := ready_iff.mpr (by decide)
  have other : (stockOrigins 10).Ready ⟨12, 0⟩ := ready_iff.mpr (by decide)
  have fine : (updateAll (Stock.host #[]) crossedPatches crossedInstance ⟨10, 0⟩).error = none := by
    decide
  have alsoFine : (updateAll (Stock.host #[]) crossedPartners crossedInstance ⟨12, 0⟩).error =
      none := by decide
  have absent : ∀ key ∈ crossedPart.evaluator.keys,
      Entries.find? key [("more", Value.null)] = none := by
    rw [crossedPart_keys]
    simp [Entries.find?]
  obtain ⟨⟨pairs, -, run⟩, untouched⟩ := own_keys_decide (stockOrigins 10) made part
    crossedPatches_agree crossedPatches_given ready other fine alsoFine
  exact ⟨made, part, crossedPatches_agree, crossedPatches_given, ready, other, fine, alsoFine,
    ⟨pairs, run⟩, (untouched crossedInstance crossedPart [("more", .null)] ⟨10, 0⟩ part absent).1⟩

end Instance
end LiveTemplate
