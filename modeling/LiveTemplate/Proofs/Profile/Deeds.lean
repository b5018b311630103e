import LiveTemplate.Profile
import LiveTemplate.Proofs.Instance.Lifetime
import LiveTemplate.Proofs.Instance.Recovery
import LiveTemplate.Proofs.Template.Compiled
import Mathlib.Algebra.GroupWithZero.Nat

/-! What a profile counts: compilations that succeeded, creations, and the turns of the parts in
updates, each told without a profile. The events of a deed add to a profile what the deed counts
for, however the update ends that it belongs to. -/
namespace LiveTemplate

/-- What counts: a compilation that succeeded, a creation, and a part's turn in an update. -/
inductive Deed (σ : Type) where
  | compiled (config : Config) (source : Node)
  | created (t : Template)
  | turn (host : Host σ) (patch : Patch) (p : Part) (s : σ)

namespace Deed

variable {σ : Type}

@[simp] def isCompiled : Deed σ → Bool
  | compiled .. => true
  | _ => false

@[simp] def isCreated : Deed σ → Bool
  | created _ => true
  | _ => false

/-- How many bindings the source of a compilation has. -/
@[simp] def declares : Deed σ → Nat
  | compiled config source => (source.bindings config).length
  | _ => 0

/-- How many parts the template of a creation has. -/
@[simp] def binds : Deed σ → Nat
  | created t => t.partCount
  | _ => 0

/-- The part's expression reported a change. -/
@[simp] def isChanged : Deed σ → Bool
  | turn host patch p _ => p.evaluator.changed host.shelf p.comparison patch
  | _ => false

/-- The part is of the kind and called for an edit of its node, whether or not the node took it. -/
@[simp] def calls (kind : BindingKind) : Deed σ → Bool
  | turn host patch p s => decide (p.descriptor.kind = kind) && match (p.react host patch s).1 with
    | .wrote .. | .refused .. => true
    | _ => false
  | _ => false

/-- The turns of the parts in an update, up to the one that stops it. -/
def turns (host : Host σ) (patch : Patch) (parts : List Part) (s : σ) : List (Deed σ) :=
  List.zipWith (turn host patch) parts (Instance.turns host patch parts s)

/-- What a creation does: it counts as one, and its first update has turns. -/
def ofCreate (host : Host σ) (t : Template) (context : Option Patch) (s : σ) : List (Deed σ) :=
  .created t :: match context, Instance.ofTemplate t with
    | some patch, .ok fresh => turns host patch fresh.parts s
    | _, _ => []

end Deed

namespace Part

variable {σ : Type}

/-- Only a part whose expression did not change stays idle. -/
theorem react_idle_iff (host : Host σ) (patch : Patch) (p : Part) (s : σ) :
    (p.react host patch s).1 = .idle ↔
      p.evaluator.changed host.shelf p.comparison patch = false := by
  constructor
  · intro idle
    by_contra changed
    rw [Bool.not_eq_false] at changed
    simp only [react, changed, if_true] at idle
    split at idle
    · next raw e s' _ =>
      unfold settle write at idle
      repeat' split at idle
      all_goals cases idle
    · cases idle
  · exact fun unmoved => by rw [react_of_unchanged unmoved]

/-- What a part that suits its node calls for, the node takes. -/
theorem react_ne_refused {p : Part} (suits : p.descriptor.Suits p.nodeType) (host : Host σ)
    (patch : Patch) (s : σ) (e : Evaluator) (edit : Edit) (error : Error) :
    (p.react host patch s).1 ≠ .refused e edit error := by
  intro refused
  simp only [react] at refused
  split at refused
  · split at refused
    · unfold settle at refused
      split at refused
      · cases refused
      · split at refused
        · cases refused
        · next applied cast =>
          rw [write, if_pos (suits _ _ _ cast)] at refused
          split at refused <;> cases refused
    · cases refused
  · cases refused

end Part

/-- A profile that counts exactly these deeds. -/
structure Profile.Counts {σ : Type} (deeds : List (Deed σ)) (p : Profile) : Prop where
  templatesCompiled : p.templatesCompiled = deeds.countP Deed.isCompiled
  partsDeclared : p.partsDeclared = (deeds.map Deed.declares).sum
  instancesCreated : p.instancesCreated = deeds.countP Deed.isCreated
  partsBound : p.partsBound = (deeds.map Deed.binds).sum
  evaluations : p.evaluations = deeds.countP Deed.isChanged
  mutationsOf : ∀ kind, p.mutationsOf kind = deeds.countP (Deed.calls kind)

namespace Profile.Counts

variable {σ : Type} {deeds : List (Deed σ)} {p : Profile}

theorem empty : Counts ([] : List (Deed σ)) Profile.empty := ⟨rfl, rfl, rfl, rfl, rfl, fun _ => rfl⟩

/-- A profile with one more deed. -/
def charge (p : Profile) (d : Deed σ) : Profile where
  templatesCompiled := p.templatesCompiled + d.isCompiled.toNat
  partsDeclared := p.partsDeclared + d.declares
  instancesCreated := p.instancesCreated + d.isCreated.toNat
  partsBound := p.partsBound + d.binds
  evaluations := p.evaluations + d.isChanged.toNat
  mutationsOf := fun kind => p.mutationsOf kind + (d.calls kind).toNat

theorem charged (counts : Counts deeds p) (d : Deed σ) : Counts (deeds ++ [d]) (charge p d) := by
  have one (holds : Deed σ → Bool) :
      (deeds ++ [d]).countP holds = deeds.countP holds + (holds d).toNat := by
    rw [List.countP_append, List.countP_singleton]
    cases holds d <;> rfl
  constructor
  · rw [one, ← counts.templatesCompiled]; rfl
  · rw [List.map_append, List.sum_append, ← counts.partsDeclared]; simp [charge]
  · rw [one, ← counts.instancesCreated]; rfl
  · rw [List.map_append, List.sum_append, ← counts.partsBound]; simp [charge]
  · rw [one, ← counts.evaluations]; rfl
  · intro kind
    rw [one, ← counts.mutationsOf]; rfl

theorem record_compiled {config : Config} {source : Node} {made : Template.Compiled}
    (done : Template.compile config source = .ok made) (p : Profile) :
    p.record made.event = charge p (.compiled config source : Deed σ) := by
  have parts := (Template.outcome_of_compile done).partCount
  simp [Profile.record, Template.Compiled.event, charge, parts]

theorem record_instantiated (t : Template) (p : Profile) :
    p.record (.instantiated t.partCount) = charge p (.created t : Deed σ) := by
  simp [Profile.record, charge]

/-- The events of a turn are an evaluation if the expression changed, and an edit if the part called
for one, since a node takes every edit of a part that suits it. -/
theorem record_turn (host : Host σ) (patch : Patch) {part : Part}
    (suits : part.descriptor.Suits part.nodeType) (s : σ) (p : Profile) :
    (Instance.reactionEvents part (part.react host patch s).1).foldl Profile.record p =
      charge p (.turn host patch part s) := by
  have idle := Part.react_idle_iff host patch part s
  have fits := Part.react_ne_refused suits host patch s
  cases changed : part.evaluator.changed host.shelf part.comparison patch with
  | false =>
    simp [idle.mpr changed, Instance.reactionEvents, charge, changed]
  | true =>
    rw [changed] at idle
    cases reaction : (part.react host patch s).1 with
    | idle => exact absurd (idle.mp reaction) (by decide)
    | withheld e | settled e | failed e error =>
      simp [Instance.reactionEvents, charge, Profile.record, changed, reaction]
    | wrote e applied =>
      have one (kind : BindingKind) : (if kind = part.descriptor.kind then 1 else 0) =
          (decide (part.descriptor.kind = kind)).toNat := by
        by_cases same : part.descriptor.kind = kind
        · simp [same]
        · simp [same, Ne.symm same]
      simp [Instance.reactionEvents, charge, Profile.record, changed, reaction, one]
    | refused e edit error => exact absurd reaction (fits e edit error)

/-- An update is counted turn by turn, however it ends. -/
theorem updated (counts : Counts deeds p) (host : Host σ) (patch : Patch) {parts : List Part}
    (suits : ∀ part ∈ parts, part.descriptor.Suits part.nodeType) (s : σ) :
    Counts (deeds ++ Deed.turns host patch parts s)
      ((Instance.eventsOf parts (Instance.reactions host patch parts s).1).foldl
        Profile.record p) := by
  induction parts generalizing deeds p s with
  | nil => simpa [Deed.turns, Instance.eventsOf] using counts
  | cons part rest ih =>
    obtain ⟨here, others⟩ := List.forall_mem_cons.mp suits
    have first := counts.charged (.turn host patch part s)
    rw [← record_turn host patch here] at first
    cases outcome : (part.react host patch s).1.error? with
    | some error =>
      rw [Instance.reactions_of_failed host patch outcome, Deed.turns,
        Instance.turns_of_failed host patch outcome]
      simpa [Instance.eventsOf] using first
    | none =>
      have later := ih first others (part.react host patch s).2
      rw [Instance.reactions_of_passed host patch outcome, Deed.turns,
        Instance.turns_of_passed host patch outcome]
      simpa [Instance.eventsOf, Deed.turns] using later

/-- Only a changed expression leads to an edit, and a part is of one kind only. -/
theorem calls_le (d : Deed σ) :
    Profile.kinds.foldr (fun kind count => (d.calls kind).toNat + count) 0 ≤
      d.isChanged.toNat := by
  cases d with
  | compiled | created => simp [Profile.kinds]
  | turn host patch part s =>
    cases changed : part.evaluator.changed host.shelf part.comparison patch with
    | false =>
      have idle := (Part.react_idle_iff host patch part s).mpr changed
      simp [Profile.kinds, idle]
    | true =>
      rw [Deed.isChanged, changed]
      cases kind : part.descriptor.kind <;>
        simp [Profile.kinds, kind, Bool.toNat_le]

/-- There are no more edits than changed expressions. -/
theorem mutations_le (counts : Counts deeds p) : p.mutations ≤ p.evaluations := by
  have total : ∀ deeds : List (Deed σ),
      Profile.kinds.foldr (fun kind count => deeds.countP (Deed.calls kind) + count) 0 ≤
        deeds.countP Deed.isChanged := by
    intro deeds
    induction deeds with
    | nil => simp [Profile.kinds]
    | cons d rest ih =>
      have one (holds : Deed σ → Bool) :
          (d :: rest).countP holds = rest.countP holds + (holds d).toNat := by
        cases known : holds d <;> simp [known]
      have first := calls_le d
      simp only [Profile.kinds, List.foldr_cons, List.foldr_nil, one] at ih first ⊢
      omega
  unfold Profile.mutations
  simp only [counts.mutationsOf, counts.evaluations]
  exact total deeds

/-- Creating an instance of a compiled template counts once, and its first update turn by turn. -/
theorem create (counts : Counts deeds p) (host : Host σ) {t : Template} (compiled : t.IsCompiled)
    (context : Option Patch) (s : σ) :
    ∃ u, Instance.create host t context s = .ok u ∧
      Counts (deeds ++ Deed.ofCreate host t context s) (u.events.foldl Profile.record p) := by
  obtain ⟨config, source, made, done, rfl⟩ := compiled
  have outcome := Template.outcome_of_compile done
  have start := Instance.ofTemplate_eq outcome
  have length := outcome.length_parts start
  have first := counts.charged (.created made.template : Deed σ)
  rw [← record_instantiated] at first
  cases context with
  | none =>
    refine ⟨_, by simp only [Instance.create, start]; rfl, ?_⟩
    rw [length]
    exact first
  | some patch =>
    refine ⟨_, Instance.create_eq start host patch s, ?_⟩
    have suits := Template.suits_for_life outcome start .now
    have later := first.updated host patch suits s
    simp only [Deed.ofCreate, start]
    rw [length, Instance.update_eq]
    simpa using later

end Profile.Counts

namespace Instance

variable {σ : Type} {host : Host σ}

/-- An instance of a template that was compiled, after any updates. -/
def IsCompiled (i : Instance) : Prop :=
  ∃ t fresh, Template.IsCompiled t ∧ ofTemplate t = .ok fresh ∧ fresh.Later i

theorem IsCompiled.suits {i : Instance} (compiled : i.IsCompiled) :
    ∀ p ∈ i.parts, p.descriptor.Suits p.nodeType := by
  obtain ⟨t, fresh, ⟨config, source, made, done, rfl⟩, start, later⟩ := compiled
  exact Template.suits_for_life (Template.outcome_of_compile done) start later

theorem IsCompiled.update {i : Instance} (compiled : i.IsCompiled) (host : Host σ) (patch : Patch)
    (s : σ) :
    (i.update host patch s).updated.IsCompiled := by
  obtain ⟨t, fresh, known, start, later⟩ := compiled
  exact ⟨t, fresh, known, start, .updated host patch s later⟩

theorem isCompiled_of_create {t : Template} (compiled : t.IsCompiled) {context : Option Patch}
    {s : σ} {u : Update σ} (made : create host t context s = .ok u) : u.updated.IsCompiled := by
  cases start : ofTemplate t with
  | error error => simp [create, start, Bind.bind, Except.bind] at made
  | ok fresh =>
    have now : fresh.IsCompiled := ⟨t, fresh, compiled, start, .now⟩
    cases context with
    | none =>
      simp only [create, start, Bind.bind, Except.bind, Pure.pure, Except.pure] at made
      cases made
      exact now
    | some patch =>
      rw [create_eq start] at made
      cases made
      exact now.update host patch s

end Instance
end LiveTemplate
