import LiveTemplate.Proofs.Forest.Requests

/-! Refused requests. In a consistent forest a request is refused exactly if it does not fit, and
the forest stays as it was but for two kinds of request: where a node was to be put behind another
one, it has left its place before the other is looked for, and where a position is one that no list
could have, the node has its new parent before that is found out. -/
namespace LiveTemplate.Forest

namespace Request

/-- The request has changed a link or a list when it is refused. -/
def Uproots (f : Forest) : Request → Prop
  | insertAfter _ _ n => f.parent n ≠ none
  | insert .. => True
  | _ => False

end Request

section
variable {f : Forest} {r : Request}

theorem Leaves.refused {o : Outcome Unit} (leaves : Leaves f r o) : ∃ e, o.result = .error e := by
  cases leaves <;> exact ⟨_, rfl⟩

namespace Request

/-- A node that stands nowhere cannot leave its place. -/
theorem insertAfter_alone {p reference n : Nat} (consistent : f.Consistent)
    (alone : f.parent n = none) (missing : reference ∉ f.children p ∨ reference = n) :
    (f.insertAfter p reference n).forest = f := by
  have gone : reference ∉ f.children p := by
    rcases missing with stranger | rfl
    · exact stranger
    · exact consistent.notMem_of_detached alone
  rw [Forest.insertAfter, Forest.detach, alone]
  simp only [Outcome.andThen, index_missing gone]

theorem unchanged_iff (consistent : f.Consistent) (known : r.Known f) (misfits : r.Misfits f)
    (leaves : Leaves f r (r.apply f)) : (r.apply f).forest = f ↔ ¬ r.Uproots f := by
  generalize outcome : r.apply f = o at leaves
  cases leaves with
  | index | removeChild | split => exact iff_of_true rfl id
  | @insertAfter p reference n g removed =>
    have uproots : ¬ (Request.insertAfter p reference n).Uproots f ↔ f.parent n = none := not_not
    rw [uproots]
    constructor
    · rintro rfl
      rw [removed.parent, if_pos rfl]
    · intro alone
      have same := insertAfter_alone consistent alone misfits
      rw [apply] at outcome
      rw [outcome] at same
      exact same
  | insert removed =>
    exact iff_of_false (fun same => removed.lost known.2 (same ▸ consistent))
      (not_not_intro trivial)

end Request

/-- A request is refused exactly if it does not fit, and then leaves what `Leaves` says. Looking for
a child, taking one out and splitting a text change nothing when they are refused. A node that is
to stand behind one that is no child of the parent, or behind itself, is taken from its place all
the same: the forest is as it was exactly if the node stood nowhere. -/
theorem refusals_leave (consistent : f.Consistent) (known : r.Known f) :
    ((∃ e, (r.apply f).result = .error e) ↔ r.Misfits f) ∧
    ∀ e, (r.apply f).result = .error e →
      Leaves f r (r.apply f) ∧ ((r.apply f).forest = f ↔ ¬ r.Uproots f) := by
  rcases Request.apply_cases consistent known with ⟨fits, granted, -⟩ | ⟨misfits, leaves⟩
  · rw [granted]
    exact ⟨iff_of_false (fun ⟨e, refused⟩ => nomatch refused) fits,
      fun e refused => nomatch refused⟩
  · exact ⟨iff_of_true leaves.refused misfits,
      fun e _ => ⟨leaves, Request.unchanged_iff consistent known misfits leaves⟩⟩

end

/-- A fragment with a text, and an empty one. -/
def border : Forest := ⟨#[⟨.fragment, none, [1]⟩, ⟨.text "x", some 0, []⟩, ⟨.fragment, none, []⟩]⟩

theorem border_refusals : border.Consistent ∧ (Request.split 1 2).Known border ∧
    ((Request.split 1 2).apply border).result = .error (.cutOutOfRange 2 1) ∧
    (Request.split 1 2).Misfits border ∧ ((Request.split 1 2).apply border).forest = border ∧
    (Request.insertAfter 0 2 2).Known border ∧
    ((Request.insertAfter 0 2 2).apply border).result = .error .notAChild ∧
    (Request.insertAfter 0 2 2).Misfits border ∧
    ((Request.insertAfter 0 2 2).apply border).forest = border := by
  have consistent : border.Consistent := by decide
  have cut : (Request.split 1 2).Known border := by decide
  have tooFar : ((Request.split 1 2).apply border).result = .error (.cutOutOfRange 2 1) := by rfl
  have behind : (Request.insertAfter 0 2 2).Known border := by decide
  have itself : ((Request.insertAfter 0 2 2).apply border).result = .error .notAChild := by rfl
  obtain ⟨misfits, left⟩ := refusals_leave consistent cut
  obtain ⟨misfits', left'⟩ := refusals_leave consistent behind
  exact ⟨consistent, cut, tooFar, misfits.mp ⟨_, tooFar⟩, (left _ tooFar).2.mpr id, behind, itself,
    misfits'.mp ⟨_, itself⟩, (left' _ itself).2.mpr (not_not_intro rfl)⟩

/-- The text leaves its place although it cannot stand in the other fragment. -/
theorem uprooted : border.Consistent ∧ (Request.insertAfter 2 0 1).Known border ∧
    ((Request.insertAfter 2 0 1).apply border).result = .error .notAChild ∧
    border.parent 1 = some 0 ∧ border.children 0 = [1] ∧
    ∃ g, ((Request.insertAfter 2 0 1).apply border).forest = g ∧
      g.parent 1 = none ∧ g.children 0 = [] ∧ g.children 2 = [] :=
  ⟨by decide, by decide, rfl, rfl, rfl, _, rfl, rfl, rfl, rfl⟩

end LiveTemplate.Forest
