import LiveTemplate.Function.Stock
import LiveTemplate.Proofs.Instance.Absorption

/-! What a part is after it failed. Node and value are as they were, but only a patch that is
rejected leaves the evaluator alone as well; where the failure comes later, the evaluator has taken
the patch in, and the same patch sent again does not show the failure a second time. -/
namespace LiveTemplate

theorem Evaluator.error_of_rejected {e : Evaluator} {patch : Patch} {error : Error}
    (rejected : e.absorb patch = .error error) :
    ∃ source key typeName, error = .notCallable source key typeName := by
  unfold absorb at rejected
  split at rejected
  · cases rejected
  · split at rejected
    · cases rejected
    · cases rejected
    · cases rejected
      exact ⟨_, _, _, rfl⟩

namespace Reaction

theorem edit?_of_failed {r : Reaction} {error : Error} (failed : r.error? = some error) :
    r.edit? = none := by
  cases r with
  | wrote e applied => cases failed
  | idle | withheld | settled | refused | failed => rfl

end Reaction

namespace Part

variable {σ : Type} {host : Host σ} {patch : Patch} {p : Part} {s t : σ} {r : Reaction}
  {error : Error}

/-- Of a part that fails at most the evaluator moves. -/
theorem after_failed (failed : r.error? = some error) :
    p.after r = { p with evaluator := (p.after r).evaluator } := by
  cases r with
  | idle | withheld | settled | wrote => cases failed
  | refused | failed => rfl

/-- Only a part that writes has another value afterwards, so one that fails keeps its value. -/
theorem value_after_failed (failed : r.error? = some error) :
    (p.after r).value = p.value := by
  rw [after_failed failed]

/-- A part that fails has evaluated its expression. It was rejected with the patch, or it has taken
the patch in and failed later. -/
theorem failed_cases (reacted : p.react host patch s = (r, t)) (failed : r.error? = some error) :
    p.evaluator.changed host.shelf p.comparison patch = true ∧
      (p.evaluator.absorb patch = .error error ∧ p.after r = p ∨
        ∃ taken, p.evaluator.absorb patch = .ok taken ∧
          p.after r = { p with evaluator := taken }) := by
  obtain rfl : (p.react host patch s).1 = r := congrArg Prod.fst reacted
  have kept := after_failed (p := p) failed
  rcases react_cases host patch p s with ⟨-, idle⟩ |
    ⟨changed, ⟨rejection, rejected, fails⟩ | ⟨taken, absorbed, ⟨later, fails⟩ | ⟨raw, settled⟩⟩⟩
  · rw [idle] at failed
    cases failed
  · refine ⟨changed, .inl ?_⟩
    rw [fails] at failed ⊢
    cases failed
    exact ⟨rejected, rfl⟩
  · refine ⟨changed, .inr ⟨taken, absorbed, ?_⟩⟩
    rw [fails]
    rfl
  · refine ⟨changed, .inr ⟨taken, absorbed, ?_⟩⟩
    rw [kept, settled, evaluator_after_settle]

/-- A part that has taken a patch in does not react when it comes again. -/
theorem react_of_taken {taken : Evaluator} (absorbed : p.evaluator.absorb patch = .ok taken)
    (s : σ) : ({ p with evaluator := taken } : Part).react host patch s = (.idle, s) :=
  react_of_unchanged (Evaluator.unchanged_of_absorbed (fun _ _ _ given => given) absorbed) s

/-- A part that fails is another one if it does not react to the same patch afterwards. -/
theorem after_ne_of_idle (reacted : p.react host patch s = (r, t)) (failed : r.error? = some error)
    (idle : (p.after r).react host patch s = (.idle, s)) : p.after r ≠ p := by
  intro same
  rw [same, reacted] at idle
  cases idle
  cases failed

/-- A failing part edits nothing and keeps its value. If it is the patch that is rejected, for a
function that cannot be called, the part is as before, and the patch fails again whenever it is
sent again. If anything else fails, the part is not as before: it has taken the patch in, and the
patch sent again is passed over without an error. -/
theorem failed_reaction_leaves (reacted : p.react host patch s = (r, t))
    (failed : r.error? = some error) :
    (∀ content, Instance.applyReaction p r content = content) ∧ (p.after r).value = p.value ∧
      ((∃ source key typeName, error = .notCallable source key typeName) ∧ p.after r = p ∧
          (∀ u, p.react host patch u = (.failed p.evaluator error, u)) ∨
        p.after r ≠ p ∧
          (∃ taken, p.evaluator.absorb patch = .ok taken ∧
            p.after r = { p with evaluator := taken }) ∧
          ∀ u, (p.after r).react host patch u = (.idle, u)) := by
  have noEdit := Reaction.edit?_of_failed failed
  refine ⟨fun content => by rw [Instance.applyReaction, noEdit], value_after_failed failed, ?_⟩
  obtain ⟨changed, ⟨rejected, kept⟩ | ⟨taken, absorbed, after⟩⟩ := failed_cases reacted failed
  · exact .inl ⟨Evaluator.error_of_rejected rejected, kept, react_of_rejected changed rejected⟩
  · have idle (u : σ) : (p.after r).react host patch u = (.idle, u) := by
      rw [after]
      exact react_of_taken absorbed u
    exact .inr ⟨after_ne_of_idle reacted failed (idle s), ⟨taken, absorbed, after⟩, idle⟩

/-- A call whose function is still to come. -/
def hopeful : Part := .ofDescriptor [0] .text ⟨.text, "word(x)", none⟩

def boomPatch : Patch := [("word", .function "boom"), ("x", .int 1)]

theorem hopeful_leaves : ∃ r,
    hopeful.react (Stock.host #[]) boomPatch Supply.start = (r, Supply.start) ∧
      r.error? = some (.host (.value "boom")) ∧
      (∀ content, Instance.applyReaction hopeful r content = content) ∧
      (hopeful.after r).value = hopeful.value ∧ hopeful.after r ≠ hopeful ∧
      ∀ u, (hopeful.after r).react (Stock.host #[]) boomPatch u = (.idle, u) := by
  obtain ⟨r, reacted, failed⟩ : ∃ r,
      hopeful.react (Stock.host #[]) boomPatch Supply.start = (r, Supply.start) ∧
        r.error? = some (.host (.value "boom")) := ⟨_, rfl, rfl⟩
  obtain ⟨noEdit, value, ⟨⟨_, _, _, callee⟩, -⟩ | ⟨moved, -, idle⟩⟩ :=
    failed_reaction_leaves reacted failed
  · cases callee
  · exact ⟨r, reacted, failed, noEdit, value, moved, idle⟩

/-- A part and a patch that is to be taken in before an error comes. -/
structure Failing where
  part : Part
  patch : Patch
  taken : Evaluator
  error : Error

namespace Failing

/-- The part fails, is not as before, and does not fail again. -/
def Lost (f : Failing) : Prop :=
  f.part.react (Stock.host #[]) f.patch Supply.start =
      (.failed f.taken f.error, Supply.start) ∧
    f.part.after (.failed f.taken f.error) ≠ f.part ∧
    (f.part.after (.failed f.taken f.error)).react (Stock.host #[]) f.patch Supply.start =
      (.idle, Supply.start)

theorem lost {f : Failing}
    (reacted : f.part.react (Stock.host #[]) f.patch Supply.start =
      (.failed f.taken f.error, Supply.start))
    (idle : (f.part.after (.failed f.taken f.error)).react (Stock.host #[]) f.patch Supply.start =
      (.idle, Supply.start)) : f.Lost :=
  ⟨reacted, after_ne_of_idle reacted rfl idle, idle⟩

def function : Failing where
  part := hopeful
  patch := boomPatch
  taken := .call "word(x)" "word" [("x", .int 1)] (.function "boom")
  error := .host (.value "boom")

/-- An object that cannot be tested for truth. -/
def stubborn : Value := .object 1 ⟨"x", .refuses, .byIdentity⟩

def truthTest : Failing where
  part := .ofDescriptor [] .element ⟨.booleanAttribute, "x", some "open"⟩
  patch := [("x", stubborn)]
  taken := .lookup "x" stubborn
  error := .noTruthValue

def kind : Failing where
  part := .ofDescriptor [] .element ⟨.other "colour", "x", none⟩
  patch := [("x", .int 1)]
  taken := .lookup "x" (.int 1)
  error := .unimplementedKind "colour"

/-- The patch is lost whether the function fails, the cast, or the choice of a cast. -/
theorem failing_not_intact : function.Lost ∧ truthTest.Lost ∧ kind.Lost :=
  ⟨lost rfl rfl, lost rfl rfl, lost rfl rfl⟩

end Failing
end Part
end LiveTemplate
