import LiveTemplate.Proofs.Profile.Blocks
import LiveTemplate.Script.Template

/-! Profiled blocks of scripts. A script keeps the events of the innermost block and counts them
when the block ends; what it then reports are the deeds of the block's own steps. -/
namespace LiveTemplate

namespace Script.TemplateState

/-- The template was compiled, and the named instances are instances of compiled templates. -/
structure Sound (st : TemplateState) : Prop where
  template : st.template.IsCompiled
  instances : ∀ on i, st.instances.find? on = some i → i.IsCompiled

/-- What an update with an evaluated context does. -/
def deedsOfPatch (i : Instance) : Except Error (Option Patch × Objects) → List (Deed Supply)
  | .ok (some patch, objects) => Deed.turns objects.host patch i.parts objects.supply
  | _ => []

mutual

/-- The deeds of one step; those of an inner block are its own. -/
def deeds (st : TemplateState) : TemplateStep → List (Deed Supply)
  | .create _ context => match st.objects.evaluateContext? context with
    | .ok (patch, objects) => Deed.ofCreate objects.host st.template patch objects.supply
    | .error _ => []
  | .update on context values => match st.instances.find? on with
    | some i => deedsOfPatch i (patch? context values st.objects)
    | none => []
  | .within settings steps => match Config.ofSettings settings with
    | .ok config => deedsOfSteps { st with config := config } steps
    | .error _ => []
  | .recompile on => match st.instances.find? on with
    | some i => match Template.compile st.config i.content with
      | .ok _ => [.compiled st.config i.content]
      | .error _ => []
    | none => []
  | _ => []

def deedsOfSteps (st : TemplateState) : List TemplateStep → List (Deed Supply)
  | [] => []
  | s :: rest => deeds st s ++ deedsOfSteps (step st s).2 rest

end

variable {st : TemplateState}

theorem Sound.set (sound : st.Sound) {i : Instance} (compiled : i.IsCompiled) (on : String) :
    ∀ other j, (st.instances.set on i).find? other = some j → j.IsCompiled := by
  intro other j found
  rw [Entries.find?_set] at found
  split at found
  · cases found
    exact compiled
  · exact sound.instances other j found

theorem start_sound {t : Template} (compiled : t.IsCompiled) (config : Config) (objects : Objects) :
    Sound ⟨t, [], config, objects, [], []⟩ := ⟨compiled, by rintro on i ⟨⟩⟩

/-- A sound state in which the events of the innermost block count for these deeds. -/
structure Kept (before : List (Deed Supply)) (st : TemplateState) : Prop where
  sound : st.Sound
  counts : (Profile.ofEvents st.profiled).Counts before

section Steps

variable {before : List (Deed Supply)}

/-- A block begins with nothing. -/
theorem kept_start (sound : st.Sound) : Kept [] { st with profiled := [] } :=
  ⟨⟨sound.template, sound.instances⟩, .empty⟩

/-- Events that count for some deeds are recorded. -/
theorem kept_record {events : List Event} (sound : st.Sound)
    (counts : (events.foldl Profile.record (Profile.ofEvents st.profiled)).Counts before) :
    (st.record events).Kept before where
  sound := ⟨sound.template, sound.instances⟩
  counts := by
    rw [record, Profile.ofEvents, List.foldl_append]
    exact counts

theorem kept_create (kept : st.Kept before) (on : String) (context : Option WrittenContext) :
    (st.create on context).2.Kept (before ++ st.deeds (.create on context)) := by
  unfold create deeds
  cases evaluated : st.objects.evaluateContext? context with
  | error error => exact kept_record kept.sound (by simpa using kept.counts)
  | ok made =>
    obtain ⟨patch, objects⟩ := made
    obtain ⟨u, created, later⟩ :=
      kept.counts.create objects.host kept.sound.template patch objects.supply
    simp only [created]
    cases u.error with
    | some error => exact kept_record ⟨kept.sound.template, kept.sound.instances⟩ later
    | none =>
      have compiled := Instance.isCompiled_of_create kept.sound.template created
      exact kept_record ⟨kept.sound.template, kept.sound.set compiled on⟩ later

theorem kept_update (kept : st.Kept before) (on : String) (context : Option WrittenContext)
    (values : WrittenContext) : (st.step (.update on context values)).2.Kept
      (before ++ st.deeds (.update on context values)) := by
  unfold step deeds onInstance
  cases found : st.instances.find? on with
  | none => simpa using kept
  | some i =>
    have compiled := kept.sound.instances on i found
    simp only [updateInstance]
    rcases patch? context values st.objects with error | ⟨patch | patch, objects⟩
    · simpa [deedsOfPatch] using kept
    · simp only [deedsOfPatch, List.append_nil]
      exact ⟨⟨kept.sound.template, kept.sound.instances⟩, kept.counts⟩
    · have later := kept.counts.updated objects.host patch compiled.suits objects.supply
      simp only [deedsOfPatch, Instance.update_eq]
      refine kept_record ⟨kept.sound.template, kept.sound.set ?_ on⟩ later
      have after := compiled.update objects.host patch objects.supply
      rwa [Instance.update_eq] at after

theorem kept_recompile (kept : st.Kept before) (on : String) :
    (st.step (.recompile on)).2.Kept (before ++ st.deeds (.recompile on)) := by
  unfold step deeds onInstance
  cases st.instances.find? on with
  | none => simpa using kept
  | some i =>
    simp only [recompile]
    cases done : Template.compile st.config i.content with
    | error error => simpa using kept
    | ok made =>
      have later := kept.counts.charged (.compiled st.config i.content)
      rw [← Profile.Counts.record_compiled done] at later
      exact kept_record kept.sound later

theorem kept_append (kept : st.Kept before) (name : String) (item : Literal) :
    (st.append name item).2.Kept before := by
  unfold append
  split
  · exact ⟨⟨kept.sound.template, kept.sound.instances⟩, kept.counts⟩
  · exact kept

end Steps

mutual

/-- One step records the events of its deeds, and what an inner block records is given up. -/
theorem step_kept {st : TemplateState} {before : List (Deed Supply)} (kept : st.Kept before) :
    (s : TemplateStep) → (st.step s).2.Kept (before ++ st.deeds s)
  | .create on context => kept_create kept on context
  | .update on context values => kept_update kept on context values
  | .recompile on => kept_recompile kept on
  | .append name item => by
    simpa [deeds, step] using kept_append kept name item
  | .state on => by
    unfold step deeds onInstance
    cases st.instances.find? on <;> simpa using kept
  | .template => by simpa [deeds, step] using kept
  | .logs => by
    simp only [deeds, step, List.append_nil]
    exact ⟨⟨kept.sound.template, kept.sound.instances⟩, kept.counts⟩
  | .profile steps => by
    have inner := run_kept (kept_start kept.sound) steps
    simp only [deeds, step, List.append_nil]
    exact ⟨⟨inner.sound.template, inner.sound.instances⟩, kept.counts⟩
  | .within settings steps => by
    unfold step deeds
    cases Config.ofSettings settings with
    | error error => simpa using kept
    | ok config =>
      have here : Kept before { st with config := config } :=
        ⟨⟨kept.sound.template, kept.sound.instances⟩, kept.counts⟩
      have inner := run_kept here steps
      exact ⟨⟨inner.sound.template, inner.sound.instances⟩, inner.counts⟩

theorem run_kept {st : TemplateState} {before : List (Deed Supply)} (kept : st.Kept before) :
    (steps : List TemplateStep) → (st.run steps).2.Kept (before ++ st.deedsOfSteps steps)
  | [] => by simpa [deedsOfSteps, run] using kept
  | s :: rest => by
    have later := run_kept (step_kept kept s) rest
    simpa [deedsOfSteps, run] using later

end

/-- What a script reports of a block counts its deeds. -/
theorem report_counts (sound : st.Sound) (steps : List TemplateStep) :
    ∃ profile answers, (st.step (.profile steps)).1 = .profiled profile answers ∧
      profile.Counts ({ st with profiled := [] }.deedsOfSteps steps) :=
  ⟨_, _, rfl, (run_kept (kept_start sound) steps).counts⟩

end Script.TemplateState

namespace Profile

/-- Whatever was done before, and however its works end, a block's profile counts exactly the deeds
of the block itself: on a bench, where the profiles around are left as they were, and in a script,
which reports it. So there are no more edits than changed expressions. -/
theorem block_counts_exactly {σ : Type} {b : Bench σ} (sound : b.Sound) (works : List (Work σ))
    {st : Script.TemplateState} (usable : st.Sound) (steps : List Script.TemplateStep) :
    (∃ profile, (b.enter.run works).profiles = profile :: b.profiles ∧
      profile.Counts (Deed.ofWorks b.enter works) ∧ profile.mutations ≤ profile.evaluations ∧
      (b.step (.block works)).profiles = b.profiles) ∧
    ∃ profile answers, (st.step (.profile steps)).1 = .profiled profile answers ∧
      profile.Counts ({ st with profiled := [] }.deedsOfSteps steps) ∧
      profile.mutations ≤ profile.evaluations := by
  obtain ⟨profile, inside, counts, after⟩ := Bench.block_counts sound works
  obtain ⟨reported, answers, step, reports⟩ := Script.TemplateState.report_counts usable steps
  exact ⟨⟨profile, inside, counts, counts.mutations_le, after⟩,
    reported, answers, step, reports, reports.mutations_le⟩

/-- An update that fails within a creation, a second one that passes, and a block inside. -/
def eventfulWorks : List (Work Supply) :=
  [.compile Template.squareBrackets Template.guardedSource,
    .create (Stock.host #[]) 0 (some Template.rejectedPatch), .create (Stock.host #[]) 0 none,
    .block [.compile Template.squareBrackets Template.guardedSource],
    .update (Stock.host #[]) 0 [("word", .str "b")]]

/-- The same in a script, whose compilation comes before. -/
def eventfulSteps : List Script.TemplateStep :=
  [.create "first" (some [("word", .str "b"), ("tally", .int 3)]), .create "second" none,
    .profile [.create "third" none], .update "second" (some [("word", .str "b")]) []]

def guardedState : Script.TemplateState :=
  ⟨Template.guardedCompiled.template, [], .standard, .start, [], []⟩

theorem eventful_block_counts : (Bench.start Supply.start).Sound ∧ guardedState.Sound ∧
    (∃ profile, ((Bench.start Supply.start).enter.run eventfulWorks).profiles = [profile] ∧
      profile.Counts (Deed.ofWorks (Bench.start Supply.start).enter eventfulWorks) ∧
      profile.templatesCompiled = 1 ∧ profile.partsBound = 8 ∧ profile.evaluations = 6) ∧
    ∃ profile answers, (guardedState.step (.profile eventfulSteps)).1 =
        .profiled profile answers ∧
      profile.templatesCompiled = 0 ∧ profile.partsBound = 8 ∧ profile.evaluations = 6 := by
  have sound := Bench.start_sound Supply.start
  have usable : guardedState.Sound := Script.TemplateState.start_sound
    ⟨_, _, _, Template.guardedSource_compiles, rfl⟩ _ _
  obtain ⟨⟨profile, inside, counts, -⟩, reported, answers, step, reports, -⟩ :=
    block_counts_exactly sound eventfulWorks usable eventfulSteps
  refine ⟨sound, usable, ⟨profile, inside, counts, counts.templatesCompiled.trans ?_,
    counts.partsBound.trans ?_, counts.evaluations.trans ?_⟩, reported, answers, step,
    reports.templatesCompiled.trans rfl, reports.partsBound.trans rfl,
    reports.evaluations.trans rfl⟩ <;>
  · simp only [eventfulWorks, Deed.ofWorks, Deed.ofWork, Bench.step, Bench.run, Bench.compile,
      Template.guardedSource_compiles]
    rfl

end Profile
end LiveTemplate
