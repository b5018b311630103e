import Mathlib.Data.List.Nodup
import LiveTemplate.Proofs.Workshop.Keys
import LiveTemplate.Template.Instance

/-! Work around one cache: configurations become active, markup is compiled through the cache,
instances of the templates are made and updated, and the cache is cleared. A ledger tells of such
work which requests the cache should hold, and knows nothing of digests and templates. -/
namespace LiveTemplate

/-- Markup, and the configuration that is active when it is to be compiled. -/
structure Request where
  config : Config
  markup : String
  deriving DecidableEq

namespace Request

def key (r : Request) : CacheKey := .of r.config r.markup

/-- What compiling without a cache gives. -/
def compiled (r : Request) : Except Error Template.Compiled :=
  Template.compileMarkup r.config r.markup

end Request

inductive Action where
  | activate (config : Config)
  | compile (markup : String)
  | create (number : Nat) (context : Option Patch)
  | update (place : Nat) (patch : Patch)
  | clear

/-- The active configuration, the workshop, the instances made so far and the host's state. -/
structure Session (σ : Type) where
  active : Config
  workshop : Workshop
  instances : List Instance
  state : σ

namespace Session

variable {σ : Type}

def start (active : Config) (s : σ) : Session σ := ⟨active, .empty, [], s⟩

def compile (cached : Bool) (markup : String) (st : Session σ) :
    Except Error (Workshop.Delivery × Workshop) :=
  st.workshop.compile st.active markup cached

/-- An instance whose first update fails is not kept. -/
def create (host : Host σ) (t : Template) (context : Option Patch) (st : Session σ) : Session σ :=
  match Instance.create host t context st.state with
  | .error _ => st
  | .ok first => match first.error with
    | some _ => { st with state := first.state }
    | none => { st with instances := st.instances ++ [first.updated], state := first.state }

def update (host : Host σ) (place : Nat) (patch : Patch) (i : Instance) (st : Session σ) :
    Session σ :=
  let done := i.update host patch st.state
  { st with instances := st.instances.set place done.updated, state := done.state }

/-- Numbers without a template and places without an instance stand for nothing. -/
def step (host : Host σ) (st : Session σ) : Action → Session σ
  | .activate config => { st with active := config }
  | .compile markup => match st.compile true markup with
    | .ok (_, workshop) => { st with workshop := workshop }
    | .error _ => st
  | .create number context => match st.workshop.templates[number]? with
    | some t => st.create host t context
    | none => st
  | .update place patch => match st.instances[place]? with
    | some i => st.update host place patch i
    | none => st
  | .clear => { st with workshop := { st.workshop with cache := [] } }

def run (host : Host σ) (actions : List Action) (st : Session σ) : Session σ :=
  actions.foldl (step host) st

end Session

/-- The active configuration, and the distinct requests that succeeded since the last clearing. -/
structure Ledger where
  active : Config
  kept : List Request

namespace Ledger

def start (active : Config) : Ledger := ⟨active, []⟩

def record (r : Request) (kept : List Request) : List Request :=
  if r.compiled.isOk && !kept.contains r then kept ++ [r] else kept

def step (l : Ledger) : Action → Ledger
  | .activate config => { l with active := config }
  | .compile markup => { l with kept := record ⟨l.active, markup⟩ l.kept }
  | .clear => { l with kept := [] }
  | .create _ _ | .update _ _ => l

def run (actions : List Action) (l : Ledger) : Ledger := actions.foldl step l

/-- What an action asks to compile. -/
def request? (l : Ledger) : Action → Option Request
  | .compile markup => some ⟨l.active, markup⟩
  | _ => none

def requests : List Action → Ledger → List Request
  | [], _ => []
  | a :: rest, l => (l.request? a).toList ++ requests rest (l.step a)

theorem requests_append (before after : List Action) (l : Ledger) :
    requests (before ++ after) l = requests before l ++ requests after (run before l) := by
  induction before generalizing l with
  | nil => rfl
  | cons a before ih =>
    rw [List.cons_append, requests, requests, ih, List.append_assoc]
    rfl

variable {r : Request} {kept : List Request}

theorem record_of_mem (member : r ∈ kept) : record r kept = kept := by
  simp [record, member]

theorem record_of_error {error : Error} (failed : r.compiled = .error error) :
    record r kept = kept := by
  simp [record, failed, Except.isOk, Except.toBool]

theorem record_of_new {made : Template.Compiled} (compiled : r.compiled = .ok made)
    (new : r ∉ kept) : record r kept = kept ++ [r] := by
  simp [record, compiled, Except.isOk, Except.toBool, new]

theorem mem_record {q : Request} (member : q ∈ record r kept) : q = r ∨ q ∈ kept := by
  unfold record at member
  split at member
  · rw [List.mem_append, List.mem_singleton] at member
    exact member.symm
  · exact .inr member

theorem nodup_step {l : Ledger} (distinct : l.kept.Nodup) (a : Action) :
    (l.step a).kept.Nodup := by
  cases a with
  | compile markup =>
    simp only [step, record]
    split
    case isTrue new =>
      simp only [Bool.and_eq_true, Bool.not_eq_true', List.contains_eq_mem,
        decide_eq_false_iff_not] at new
      exact List.nodup_append.mpr ⟨distinct, List.nodup_singleton _, fun q member r single same =>
        new.2 (List.mem_singleton.mp single ▸ same ▸ member)⟩
    case isFalse => exact distinct
  | clear => exact .nil
  | activate config | create number context | update place patch => exact distinct

theorem nodup_run {l : Ledger} (distinct : l.kept.Nodup) (actions : List Action) :
    (l.run actions).kept.Nodup := by
  induction actions generalizing l with
  | nil => exact distinct
  | cons a rest ih => exact ih (nodup_step distinct a)

end Ledger

namespace Session

variable {σ : Type} {host : Host σ} {st : Session σ} {a : Action}

/-- A step that compiles leaves the workshop that comes of it, or the session as it is. -/
theorem step_compile (host : Host σ) (st : Session σ) (markup : String) :
    (∃ delivery made, st.compile true markup = .ok (delivery, made) ∧
        st.step host (.compile markup) = { st with workshop := made }) ∨
      ∃ error, st.compile true markup = .error error ∧ st.step host (.compile markup) = st := by
  cases done : st.compile true markup with
  | ok result => exact .inl ⟨_, _, rfl, by simp only [step, done]⟩
  | error error => exact .inr ⟨_, rfl, by simp only [step, done]⟩

/-- Instances come and change without the workshop and the active configuration. -/
theorem step_create (number : Nat) (context : Option Patch) :
    (st.step host (.create number context)).workshop = st.workshop ∧
      (st.step host (.create number context)).active = st.active := by
  simp only [step, create]
  repeat' split
  all_goals exact ⟨rfl, rfl⟩

theorem step_update (place : Nat) (patch : Patch) :
    (st.step host (.update place patch)).workshop = st.workshop ∧
      (st.step host (.update place patch)).active = st.active := by
  simp only [step, update]
  split
  all_goals exact ⟨rfl, rfl⟩

/-- Only compiling and clearing touch the workshop. -/
theorem workshop_step (st : Session σ) (host : Host σ) (a : Action) :
    (st.step host a).workshop = st.workshop ∨
      (a = .clear ∧ (st.step host a).workshop = ⟨st.workshop.templates, []⟩) ∨
      ∃ markup delivery, st.compile true markup = .ok (delivery, (st.step host a).workshop) := by
  cases a with
  | activate config => exact .inl rfl
  | create number context => exact .inl (step_create number context).1
  | update place patch => exact .inl (step_update place patch).1
  | clear => exact .inr (.inl ⟨rfl, rfl⟩)
  | compile markup =>
    rcases step_compile host st markup with
      ⟨delivery, made, done, stepped⟩ | ⟨error, -, same⟩
    · rw [stepped]
      exact .inr (.inr ⟨markup, delivery, done⟩)
    · rw [same]
      exact .inl rfl

theorem active_step (host : Host σ) {l : Ledger} (same : st.active = l.active) (a : Action) :
    (st.step host a).active = (l.step a).active := by
  cases a with
  | activate config => rfl
  | create number context => exact (step_create number context).2.trans same
  | update place patch => exact (step_update place patch).2.trans same
  | clear => exact same
  | compile markup =>
    rcases step_compile host st markup with
      ⟨delivery, made, -, stepped⟩ | ⟨error, -, stepped⟩
    all_goals
      rw [stepped]
      exact same

theorem templates_step (st : Session σ) (host : Host σ) (a : Action) :
    st.workshop.templates <+: (st.step host a).workshop.templates := by
  rcases workshop_step st host a with same | ⟨-, cleared⟩ | ⟨markup, delivery, done⟩
  · simp [same]
  · simp [cleared]
  · exact Workshop.templates_compile done

/-- What is found stays found until the cache is cleared. -/
theorem find?_step {key : CacheKey} {number : Nat}
    (found : st.workshop.cache.find? key = some number) (a : Action) (keeps : a ≠ .clear) :
    (st.step host a).workshop.cache.find? key = some number := by
  rcases workshop_step st host a with same | ⟨clear, -⟩ | ⟨markup, delivery, done⟩
  · rwa [same]
  · exact absurd clear keeps
  · exact Workshop.find?_compile_of_found done found

theorem run_append (before after : List Action) (st : Session σ) :
    st.run host (before ++ after) = (st.run host before).run host after := List.foldl_append

theorem templates_run (host : Host σ) (actions : List Action) (st : Session σ) :
    st.workshop.templates <+: (st.run host actions).workshop.templates := by
  induction actions generalizing st with
  | nil => exact List.prefix_refl _
  | cons a rest ih => exact (templates_step st host a).trans (ih _)

theorem find?_run {key : CacheKey} {number : Nat} {actions : List Action}
    (found : st.workshop.cache.find? key = some number) (keeps : .clear ∉ actions) :
    (st.run host actions).workshop.cache.find? key = some number := by
  induction actions generalizing st with
  | nil => exact found
  | cons a rest ih =>
    rw [List.mem_cons, not_or] at keeps
    exact ih (find?_step found a (Ne.symm keeps.1)) keeps.2

end Session
end LiveTemplate
