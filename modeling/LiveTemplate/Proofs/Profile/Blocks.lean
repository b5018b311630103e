import LiveTemplate.Proofs.Profile.Deeds

/-! Profiled blocks. What is done is recorded in the profile of the innermost open block, and
however it ends, a block's profile counts the deeds of the block itself and no others. -/
namespace LiveTemplate

/-- What may be done on a bench. Functions, and the shared lists, may be others each time. -/
inductive Work (σ : Type) where
  | compile (config : Config) (source : Node)
  | create (host : Host σ) (template : Nat) (context : Option Patch)
  | update (host : Host σ) (inst : Nat) (patch : Patch)
  | block (works : List (Work σ))

/-- Templates and instances that were made, the host's state, and the profiles of the open blocks,
the innermost first. -/
structure Bench (σ : Type) where
  templates : List Template
  instances : List Instance
  state : σ
  profiles : List Profile

namespace Bench

variable {σ : Type}

def start (s : σ) : Bench σ := ⟨[], [], s, []⟩

/-- Without an open block nothing is recorded. -/
def record (events : List Event) (b : Bench σ) : Bench σ :=
  match b.profiles with
  | [] => b
  | p :: rest => { b with profiles := events.foldl Profile.record p :: rest }

def enter (b : Bench σ) : Bench σ := { b with profiles := .empty :: b.profiles }

def leave (b : Bench σ) : Bench σ := { b with profiles := b.profiles.tail }

def compile (config : Config) (source : Node) (b : Bench σ) : Bench σ :=
  match Template.compile config source with
  | .ok made => { b with templates := b.templates ++ [made.template] }.record [made.event]
  | .error _ => b

/-- An instance whose first update fails is lost, but what happened is recorded. -/
def create (host : Host σ) (t : Template) (context : Option Patch) (b : Bench σ) : Bench σ :=
  match Instance.create host t context b.state with
  | .ok u =>
    let made := if u.error.isNone then [u.updated] else []
    { b with instances := b.instances ++ made, state := u.state }.record u.events
  | .error _ => b

def update (host : Host σ) (place : Nat) (i : Instance) (patch : Patch) (b : Bench σ) : Bench σ :=
  let u := i.update host patch b.state
  { b with instances := b.instances.set place u.updated, state := u.state }.record u.events

mutual

/-- An error ends the call it comes from and nothing else. -/
def step (b : Bench σ) : Work σ → Bench σ
  | .compile config source => b.compile config source
  | .create host template context => match b.templates[template]? with
    | some t => b.create host t context
    | none => b
  | .update host place patch => match b.instances[place]? with
    | some i => b.update host place i patch
    | none => b
  | .block works => (run b.enter works).leave

def run (b : Bench σ) : List (Work σ) → Bench σ
  | [] => b
  | w :: rest => run (step b w) rest

end

end Bench

namespace Deed

variable {σ : Type}

/-- The deeds of one work on a bench; those of an inner block are its own. -/
def ofWork (b : Bench σ) : Work σ → List (Deed σ)
  | .compile config source => match Template.compile config source with
    | .ok _ => [.compiled config source]
    | .error _ => []
  | .create host template context => match b.templates[template]? with
    | some t => ofCreate host t context b.state
    | none => []
  | .update host place patch => match b.instances[place]? with
    | some i => turns host patch i.parts b.state
    | none => []
  | .block _ => []

def ofWorks (b : Bench σ) : List (Work σ) → List (Deed σ)
  | [] => []
  | w :: rest => ofWork b w ++ ofWorks (b.step w) rest

end Deed

namespace Bench

variable {σ : Type} {b : Bench σ}

/-- The templates were compiled, and the instances are instances of such. -/
structure Sound (b : Bench σ) : Prop where
  templates : ∀ t ∈ b.templates, t.IsCompiled
  instances : ∀ i ∈ b.instances, i.IsCompiled

theorem start_sound (s : σ) : (start s).Sound := ⟨List.forall_mem_nil _, List.forall_mem_nil _⟩

/-- Recording changes profiles only. -/
theorem Sound.record (sound : b.Sound) (events : List Event) : (b.record events).Sound := by
  unfold Bench.record
  split <;> exact ⟨sound.templates, sound.instances⟩

theorem Sound.compile (sound : b.Sound) (config : Config) (source : Node) :
    (b.compile config source).Sound := by
  unfold Bench.compile
  split
  · next made done =>
    apply Sound.record
    refine ⟨?_, sound.instances⟩
    exact List.forall_mem_append.mpr ⟨sound.templates,
      List.forall_mem_singleton.mpr ⟨config, source, made, done, rfl⟩⟩
  · exact sound

theorem Sound.create (sound : b.Sound) (host : Host σ) {t : Template} (member : t ∈ b.templates)
    (context : Option Patch) : (b.create host t context).Sound := by
  unfold Bench.create
  split
  · next u made =>
    apply Sound.record
    refine ⟨sound.templates, List.forall_mem_append.mpr ⟨sound.instances, fun i new => ?_⟩⟩
    split at new
    · cases List.mem_singleton.mp new
      exact Instance.isCompiled_of_create (sound.templates t member) made
    · cases new
  · exact sound

theorem Sound.update (sound : b.Sound) (host : Host σ) {place : Nat} {i : Instance}
    (found : b.instances[place]? = some i) (patch : Patch) :
    (b.update host place i patch).Sound := by
  apply Sound.record
  refine ⟨sound.templates, fun j member => ?_⟩
  rcases List.mem_or_eq_of_mem_set member with before | rfl
  · exact sound.instances j before
  · exact (sound.instances i (List.mem_of_getElem? found)).update host patch b.state

mutual

/-- Whatever is done, a bench stays sound. -/
theorem Sound.step {b : Bench σ} (sound : b.Sound) : (w : Work σ) → (b.step w).Sound
  | .compile config source => sound.compile config source
  | .create host template context => by
    cases found : b.templates[template]? with
    | none => simpa only [Bench.step, found] using sound
    | some t =>
      simpa only [Bench.step, found] using
        sound.create host (List.mem_of_getElem? found) context
  | .update host place patch => by
    cases found : b.instances[place]? with
    | none => simpa only [Bench.step, found] using sound
    | some i => simpa only [Bench.step, found] using sound.update host found patch
  | .block works =>
    have inner := Sound.run (b := b.enter) ⟨sound.templates, sound.instances⟩ works
    ⟨inner.templates, inner.instances⟩

theorem Sound.run {b : Bench σ} (sound : b.Sound) : (works : List (Work σ)) → (b.run works).Sound
  | [] => sound
  | w :: rest => Sound.run (sound.step w) rest

end

/-- Events are recorded in the innermost open block. -/
theorem counts_record {p : Profile} {rest : List Profile} (inside : b.profiles = p :: rest)
    {events : List Event} {deeds : List (Deed σ)}
    (counts : (events.foldl Profile.record p).Counts deeds) :
    ∃ q, (b.record events).profiles = q :: rest ∧ q.Counts deeds :=
  ⟨_, by rw [record, inside], counts⟩

mutual

/-- What one work adds to the profile of the innermost block is what it does there; the profiles
around stay as they are. -/
theorem step_counts {b : Bench σ} (sound : b.Sound) {p : Profile} {rest : List Profile}
    (inside : b.profiles = p :: rest) {deeds : List (Deed σ)} (counts : p.Counts deeds) :
    (w : Work σ) → ∃ q, (b.step w).profiles = q :: rest ∧ q.Counts (deeds ++ Deed.ofWork b w)
  | .compile config source => by
    cases done : Template.compile config source with
    | error error =>
      simp only [step, Bench.compile, Deed.ofWork, done, List.append_nil]
      exact ⟨p, inside, counts⟩
    | ok made =>
      have later := counts.charged (.compiled config source)
      rw [← Profile.Counts.record_compiled done] at later
      simp only [step, Bench.compile, Deed.ofWork, done]
      apply counts_record
      · exact inside
      · exact later
  | .create host template context => by
    cases found : b.templates[template]? with
    | none =>
      simp only [step, Deed.ofWork, found, List.append_nil]
      exact ⟨p, inside, counts⟩
    | some t =>
      obtain ⟨u, made, later⟩ := counts.create host
        (sound.templates t (List.mem_of_getElem? found)) context b.state
      simp only [step, Deed.ofWork, found, Bench.create, made]
      apply counts_record
      · exact inside
      · exact later
  | .update host place patch => by
    cases found : b.instances[place]? with
    | none =>
      simp only [step, Deed.ofWork, found, List.append_nil]
      exact ⟨p, inside, counts⟩
    | some i =>
      have later := counts.updated host patch
        (sound.instances i (List.mem_of_getElem? found)).suits b.state
      simp only [step, Deed.ofWork, found, Bench.update, Instance.update_eq]
      apply counts_record
      · exact inside
      · exact later
  | .block works => by
    obtain ⟨q, inner, -⟩ := run_counts (b := b.enter) ⟨sound.templates, sound.instances⟩ rfl
      .empty works
    refine ⟨p, ?_, by simpa [Deed.ofWork] using counts⟩
    rw [step, leave, inner, List.tail_cons, inside]

theorem run_counts {b : Bench σ} (sound : b.Sound) {p : Profile} {rest : List Profile}
    (inside : b.profiles = p :: rest) {deeds : List (Deed σ)} (counts : p.Counts deeds) :
    (works : List (Work σ)) →
      ∃ q, (b.run works).profiles = q :: rest ∧ q.Counts (deeds ++ Deed.ofWorks b works)
  | [] => ⟨p, inside, by simpa [Deed.ofWorks] using counts⟩
  | w :: works => by
    obtain ⟨q, first, here⟩ := step_counts sound inside counts w
    obtain ⟨r, later, all⟩ := run_counts (sound.step w) first here works
    exact ⟨r, later, by simpa [Deed.ofWorks] using all⟩

end

/-- A block leaves the profiles around as they were, and its own counts its deeds. -/
theorem block_counts (sound : b.Sound) (works : List (Work σ)) :
    ∃ profile, (b.enter.run works).profiles = profile :: b.profiles ∧
      profile.Counts (Deed.ofWorks b.enter works) ∧
      (b.step (.block works)).profiles = b.profiles := by
  obtain ⟨profile, inside, counts⟩ :=
    run_counts (b := b.enter) ⟨sound.templates, sound.instances⟩ rfl .empty works
  refine ⟨profile, inside, counts, ?_⟩
  rw [step, leave, inside, List.tail_cons]

end Bench
end LiveTemplate
