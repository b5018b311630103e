import LiveTemplate.Proofs.Instance.Failure
import LiveTemplate.Proofs.Instance.Lifetime

/-! Recovery from an update that failed. Its patch has reached some parts and others not, so what
the parts know differs; but a patch that gives all its keys again brings every part to know the
same, and then the instance is the one that the failed update never touched. -/
namespace LiveTemplate

/-- A later patch that gives every key of an earlier one leaves nothing of it. -/
theorem Knowledge.learn_learn_of_covers {patch again : Patch}
    (covers : ∀ key, (patch.find? key).isSome → (again.find? key).isSome) (known : Knowledge) :
    (known.learn patch).learn again = known.learn again := by
  funext key
  unfold learn
  cases given : again.find? key with
  | some v => rfl
  | none =>
    cases earlier : patch.find? key with
    | none => rfl
    | some v =>
      have present := covers key (by rw [earlier]; rfl)
      rw [given] at present
      cases present

namespace Part

variable {σ : Type} {host : Host σ} {known held : Knowledge} {patch : Patch} {p : Part}

/-- A part to which all that is known has been given. It has applied what its binding is to apply,
unless the binding failed with what is known. -/
structure Halted (host : Host σ) (known : Knowledge) (p : Part) : Prop where
  kept : ∃ held, p.Keeps host known held
  value : ∀ s cast, p.descriptor.outcome host known s = .ok cast →
    p.value.form = (cast.map Applied.value).getD .unset

theorem Settled.halted {cast : Option Applied} (settled : p.Settled host known cast) :
    p.Halted host known := by
  refine ⟨settled.kept, fun s other outcome => ?_⟩
  cases (settled.outcome s).symm.trans outcome
  exact settled.value

/-- A part that keeps all that is known passes if its binding can be evaluated then. -/
theorem Keeps.passes (keeps : p.Keeps host known held) (ordinary : known.Ordinary host)
    (given : patch.Ordinary host) (suits : p.descriptor.Suits p.nodeType)
    {cast : Option Applied} {s t : σ}
    (outcome : p.descriptor.outcome host (known.learn patch) t = .ok cast) :
    (p.react host patch s).1.error? = none := by
  rw [← keeps.outcome ordinary given s t] at outcome
  obtain ⟨exact, effect, -⟩ := Descriptor.outcome_eq_ok_iff.mp outcome
  exact react_passes keeps.evaluator suits effect

/-- Whether a settled part passes or fails, it is halted afterwards: on what was known, or on that
and the patch. -/
theorem Settled.halted_after {cast : Option Applied} (settled : p.Settled host known cast)
    (ordinary : known.Ordinary host) (given : patch.Ordinary host)
    (suits : p.descriptor.Suits p.nodeType) (s : σ) :
    (p.after (p.react host patch s).1).Halted host known ∨
      (p.after (p.react host patch s).1).Halted host (known.learn patch) := by
  cases failure : (p.react host patch s).1.error? with
  | none =>
    obtain ⟨after, later, -⟩ := settled.react ordinary given failure
    exact .inr later.halted
  | some error =>
    obtain ⟨held, keeps⟩ := settled.kept
    rcases evaluator_after_react keeps.evaluator s with same | learned
    · left
      refine ⟨⟨held, by rw [same, descriptor_after], keeps.ordinary, ?_⟩, fun t other outcome => ?_⟩
      · rw [descriptor_after]
        exact keeps.alike
      · rw [value_after_failed failure]
        rw [descriptor_after] at outcome
        exact settled.halted.value t other outcome
    · right
      refine ⟨⟨_, keeps.taken given learned⟩, fun t other outcome => ?_⟩
      -- With something to apply the part would have passed.
      rw [descriptor_after] at outcome
      rw [keeps.passes ordinary given suits outcome] at failure
      cases failure

/-- A halted part comes to be settled by a patch with which its binding can be evaluated. -/
theorem Halted.react (halted : p.Halted host known) (ordinary : known.Ordinary host)
    (given : patch.Ordinary host) (suits : p.descriptor.Suits p.nodeType)
    {cast : Option Applied}
    (outcome : ∀ s, p.descriptor.outcome host (known.learn patch) s = .ok cast) (s : σ) :
    (p.after (p.react host patch s).1).Settled host (known.learn patch) cast := by
  obtain ⟨held, keeps⟩ := halted.kept
  have passed := keeps.passes (s := s) ordinary given suits (outcome s)
  cases moved : p.evaluator.changed host.shelf p.comparison patch with
  | false =>
    rw [react_of_unchanged moved]
    have idle := keeps.idle given moved
    refine ⟨⟨held, idle⟩, outcome, halted.value s cast ?_⟩
    rw [← Descriptor.outcome_eq_of_alike ordinary keeps.ordinary keeps.alike s s,
      Descriptor.outcome_eq_of_alike (ordinary.learn given) keeps.ordinary idle.alike s s]
    exact outcome s
  | true =>
    have reacted := react_of_changed keeps.evaluator moved s
    have here := outcome s
    rw [← keeps.outcome ordinary given s s] at here
    obtain ⟨exact, effect, rfl⟩ := Descriptor.outcome_eq_ok_iff.mp here
    rw [effect] at reacted
    cases exact with
    | none =>
      have never := (Descriptor.outcome_eq_none_iff (ordinary.learn given) s).mp (outcome s)
      have before := (Descriptor.outcome_eq_none_iff ordinary s).mpr
        (Option.or_eq_none_iff.mp never).2
      rw [reacted]
      exact ⟨⟨_, keeps.taken (r := .withheld _) given rfl⟩, outcome, halted.value s none before⟩
    | some a =>
      have admitted := Descriptor.effect_value_ordinary (keeps.ordinary.learn given) effect
      obtain ⟨value, evaluator⟩ := value_of_applied admitted reacted passed
      exact ⟨⟨_, keeps.taken given evaluator⟩, by rwa [descriptor_after], value⟩

theorem Step.suits {q : Part} (step : Step host patch p q)
    (suits : p.descriptor.Suits p.nodeType) : q.descriptor.Suits q.nodeType := by
  rcases step with rfl | ⟨s, rfl⟩
  · exact suits
  · rwa [descriptor_after, nodeType_after]

end Part

namespace Instance

variable {σ : Type} {host : Host σ} {base : Node} {known : Knowledge} {patch again : Patch}
  {i j : Instance}

/-- However an update ends, its parts are halted: some know the patch, the others do not. -/
theorem Current.halted (current : i.Current host base known) (ordinary : known.Ordinary host)
    (given : patch.Ordinary host) (suits : ∀ p ∈ i.parts, p.descriptor.Suits p.nodeType) {s : σ}
    {q : Part} (member : q ∈ (i.update host patch s).updated.parts) :
    q.Halted host known ∨ q.Halted host (known.learn patch) := by
  obtain ⟨k, found⟩ := List.mem_iff_getElem?.mp member
  obtain ⟨p, before, rfl | ⟨t, rfl⟩⟩ := step_of_update host patch found
  all_goals
    have inside := List.mem_of_getElem? before
    obtain ⟨cast, settled⟩ := current.settled _ inside
  · exact .inl settled.halted
  · exact settled.halted_after ordinary given (suits p inside) t

/-- Halted parts come to be settled by a patch that makes all they know one and with which all
bindings can be evaluated. -/
theorem current_of_halted {now : Knowledge} (overlays : i.Overlays base)
    (suits : ∀ p ∈ i.parts, p.descriptor.Suits p.nodeType) (given : again.Ordinary host)
    (halted : ∀ p ∈ i.parts, ∃ known : Knowledge, known.Ordinary host ∧ known.learn again = now ∧
      p.Halted host known)
    (outcomes : ∀ p ∈ i.parts, ∃ cast, ∀ s, p.descriptor.outcome host now s = .ok cast) (s : σ) :
    (i.update host again s).error = none ∧
      (i.update host again s).updated.Current host base now := by
  have fine : (i.update host again s).error = none := by
    refine update_fine (fun p member s => ?_) s
    obtain ⟨known, ordinary, rfl, stopped⟩ := halted p member
    obtain ⟨held, keeps⟩ := stopped.kept
    obtain ⟨cast, outcome⟩ := outcomes p member
    exact keeps.passes ordinary given (suits p member) (outcome s)
  refine ⟨fine, overlays.update, fun q member => ?_⟩
  obtain ⟨p, inside, t, rfl, -⟩ := mem_updated_parts host fine member
  obtain ⟨known, ordinary, rfl, stopped⟩ := halted p inside
  obtain ⟨cast, outcome⟩ := outcomes p inside
  exact ⟨cast, stopped.react ordinary given (suits p inside) outcome t⟩

/-- After an update that was stopped, a patch that gives its keys again has the effect that it has
without that update. -/
theorem Current.recovers (current : i.Current host base known) (ordinary : known.Ordinary host)
    (suits : ∀ p ∈ i.parts, p.descriptor.Suits p.nodeType) (given : patch.Ordinary host)
    (anew : again.Ordinary host)
    (covers : ∀ key, (patch.find? key).isSome → (again.find? key).isSome) {s t : σ}
    (passes : (i.update host again t).error = none) (u : σ) :
    ((i.update host patch s).updated.update host again u).error = none ∧
      ((i.update host patch s).updated.update host again u).updated.Agree
        (i.update host again t).updated := by
  have direct := current.update ordinary anew passes
  have seats : (i.update host patch s).updated.seats = (i.update host again t).updated.seats :=
    seats_update.trans seats_update.symm
  have stopped : i.Later (i.update host patch s).updated := .updated host patch s .now
  obtain ⟨fine, recovered⟩ := current_of_halted current.overlays.update
    (stopped.forall_parts Part.Step.suits suits) anew
    (fun q member => by
      rcases current.halted ordinary given suits member with halted | halted
      · exact ⟨known, ordinary, rfl, halted⟩
      · exact ⟨_, ordinary.learn given, Knowledge.learn_learn_of_covers covers known, halted⟩)
    (fun q member => direct.outcome seats member) u
  exact ⟨fine, recovered.agree direct (seats_update.trans seats) u⟩

end Instance

namespace Template

variable {σ : Type} {host : Host σ} {config : Config} {source : Node} {made : Compiled}

theorem suits_for_life (outcome : Outcome config source made) {fresh i : Instance}
    (start : Instance.ofTemplate made.template = .ok fresh) (later : fresh.Later i) :
    ∀ p ∈ i.parts, p.descriptor.Suits p.nodeType := by
  refine later.forall_parts Part.Step.suits fun p member => ?_
  cases (Instance.ofTemplate_eq outcome).symm.trans start
  exact (outcome.suits member).2

/-- An instance that ordinary patches led to takes any other ordinary patch, and if this is stopped
somewhere, for one because the key of a function holds what cannot be called, a patch that gives
all its keys anew leads on as if nothing had been stopped: if it passes without the stopped one, it
passes after it, to the same tree and the same values. -/
theorem recovers_from_stopped_update (fit : source.Compilable)
    (keyed : source.AllAttributes Attributes.Keyed)
    (apart : source.AllAttributes (Attributes.Apart config))
    (done : Template.compile config source = .ok made) {fresh : Instance}
    (start : Instance.ofTemplate made.template = .ok fresh) {patches : List Patch}
    (ordinary : ∀ patch ∈ patches, patch.Ordinary host) {s₀ : σ} {run : Update σ}
    (ran : Instance.updateAll host patches fresh s₀ = run) (fine : run.error = none)
    {patch again : Patch} (given : patch.Ordinary host) (anew : again.Ordinary host)
    (covers : ∀ key, (patch.find? key).isSome → (again.find? key).isSome) {t : σ}
    (passes : (run.updated.update host again t).error = none) (s u : σ) :
    ((run.updated.update host patch s).updated.update host again u).error = none ∧
      ((run.updated.update host patch s).updated.update host again u).updated.Agree
        (run.updated.update host again t).updated := by
  obtain ⟨compiled, same, outcome⟩ := compile_outcome config fit
  cases done.symm.trans same
  have distinct : source.AllAttributes fun a => a.Keyed ∧ a.Apart config :=
    fun n member => ⟨keyed n member, apart n member⟩
  subst ran
  have current := current_of_updates outcome distinct ordinary start fine
  have suits := suits_for_life outcome start (Instance.later_updateAll host patches fresh s₀)
  exact current.recovers (.ofPatches ordinary) suits given anew covers passes u

def acceptedPatches : List Patch := [[("word", .str "a"), ("tally", .function "count")]]

/-- Gives the keys of the rejected patch anew. -/
def correctedPatch : Patch := [("tally", .function "count"), ("word", .str "c")]

theorem acceptedPatches_ordinary : ∀ patch ∈ acceptedPatches, patch.Ordinary (Stock.host #[]) := by
  intro patch member
  cases List.mem_singleton.mp member
  exact Instance.ordinary_of_counting (by simp [Value.isPlain, or_imp, forall_and])

theorem rejectedPatch_ordinary : rejectedPatch.Ordinary (Stock.host #[]) :=
  Instance.ordinary_of_counting (by simp [rejectedPatch, Value.isPlain, or_imp, forall_and])

theorem correctedPatch_ordinary : correctedPatch.Ordinary (Stock.host #[]) :=
  Instance.ordinary_of_counting (by simp [correctedPatch, Value.isPlain, or_imp, forall_and])

theorem covers_rejectedPatch (key : String) :
    (rejectedPatch.find? key).isSome → (correctedPatch.find? key).isSome := by
  simp only [rejectedPatch, correctedPatch, Entries.find?]
  split_ifs <;> simp

theorem guardedInstance_recovers : guardedSource.Compilable ∧
    guardedSource.AllAttributes Attributes.Keyed ∧
    guardedSource.AllAttributes (Attributes.Apart squareBrackets) ∧
    Template.compile squareBrackets guardedSource = .ok guardedCompiled ∧
    Instance.ofTemplate guardedCompiled.template = .ok guardedInstance ∧
    (∀ patch ∈ acceptedPatches, patch.Ordinary (Stock.host #[])) ∧
    rejectedPatch.Ordinary (Stock.host #[]) ∧ correctedPatch.Ordinary (Stock.host #[]) ∧
    (∀ key, (rejectedPatch.find? key).isSome → (correctedPatch.find? key).isSome) ∧
    ∃ run, Instance.updateAll (Stock.host #[]) acceptedPatches guardedInstance Supply.start = run ∧
      run.error = none ∧
      (run.updated.update (Stock.host #[]) rejectedPatch Supply.start).error =
        some (.notCallable "tally(word)" "tally" "int") ∧
      (run.updated.update (Stock.host #[]) correctedPatch Supply.start).error = none ∧
      ((run.updated.update (Stock.host #[]) rejectedPatch Supply.start).updated.update
        (Stock.host #[]) correctedPatch Supply.start).error = none ∧
      ((run.updated.update (Stock.host #[]) rejectedPatch Supply.start).updated.update
        (Stock.host #[]) correctedPatch Supply.start).updated.Agree
          (run.updated.update (Stock.host #[]) correctedPatch Supply.start).updated := by
  have fine : (Instance.updateAll (Stock.host #[]) acceptedPatches guardedInstance
      Supply.start).error = none := by decide
  have passes : ((Instance.updateAll (Stock.host #[]) acceptedPatches guardedInstance
      Supply.start).updated.update (Stock.host #[]) correctedPatch Supply.start).error = none := by
    decide
  refine ⟨guardedSource_compilable, guardedSource_keyed, guardedSource_apart,
    guardedSource_compiles, guardedInstance_made, acceptedPatches_ordinary, rejectedPatch_ordinary,
    correctedPatch_ordinary, covers_rejectedPatch, _, rfl, fine, by decide, passes, ?_⟩
  exact recovers_from_stopped_update guardedSource_compilable guardedSource_keyed
    guardedSource_apart guardedSource_compiles guardedInstance_made acceptedPatches_ordinary rfl
    fine rejectedPatch_ordinary correctedPatch_ordinary covers_rejectedPatch passes Supply.start
    Supply.start

end Template
end LiveTemplate
