import LiveTemplate.Function.Stock
import LiveTemplate.Proofs.Instance.Live

/-! Patches that bring nothing new. Once a part has gone through a patch without an error, each
entry of the patch counts as unchanged for it, whatever the comparison makes of the value: either
the part took the very object in, or it found the entry unchanged before. A function that updates
the instance on its own account can undo this. -/
namespace LiveTemplate

/-- Under these keys `again` gives nothing but what `patch` gave, the very objects. -/
def Patch.Repeats (patch : Patch) (keys : List String) (again : Patch) : Prop :=
  ∀ key ∈ keys, ∀ v, again.find? key = some v → patch.find? key = some v

namespace Evaluator

variable {shelf : Shelf} {how : Comparison} {patch again : Patch}

theorem unmoved_of_unmoved {counts : Value → Value → Bool} {key : String} {last : Value}
    (repeats : ∀ v, again.find? key = some v → patch.find? key = some v)
    (unmoved : moves counts patch key last = false) : moves counts again key last = false := by
  unfold moves at unmoved ⊢
  cases given : again.find? key with
  | none => rfl
  | some v => rwa [repeats v given] at unmoved

/-- What a key was given counts as unchanged from itself. -/
theorem unmoved_of_taken {counts : Value → Value → Bool} (settled : ∀ v, counts v v = false)
    {key : String} {last : Value}
    (repeats : ∀ v, again.find? key = some v → patch.find? key = some v) :
    moves counts again key ((patch.find? key).getD last) = false := by
  unfold moves
  cases given : again.find? key with
  | none => rfl
  | some v =>
    rw [repeats v given]
    exact settled v

theorem unchanged_of_unchanged {e : Evaluator} (repeats : patch.Repeats e.keys again)
    (unchanged : e.changed shelf how patch = false) : e.changed shelf how again = false := by
  cases e with
  | lookup key last => exact unmoved_of_unmoved (repeats key List.mem_cons_self) unchanged
  | call source function parameters callee =>
    simp only [changed, Bool.or_eq_false_iff, List.any_eq_false, Bool.not_eq_true] at unchanged ⊢
    refine ⟨fun entry member => ?_, ?_⟩
    · have key : entry.1 ∈ keys (call source function parameters callee) :=
        List.mem_cons_of_mem _ (List.mem_map_of_mem member)
      exact unmoved_of_unmoved (repeats _ key) (unchanged.1 entry member)
    · exact unmoved_of_unmoved (repeats function List.mem_cons_self) unchanged.2

theorem unchanged_of_absorbed {e taken : Evaluator} (repeats : patch.Repeats e.keys again)
    (absorbed : e.absorb patch = .ok taken) : taken.changed shelf how again = false := by
  cases e with
  | lookup key last =>
    cases absorbed
    exact unmoved_of_taken (how.changed_self shelf) (repeats key List.mem_cons_self)
  | call source function parameters callee =>
    rw [eq_of_absorb_call absorbed]
    simp only [changed, Bool.or_eq_false_iff, List.any_eq_false, List.mem_map, Bool.not_eq_true]
    refine ⟨?_, ?_⟩
    · rintro entry ⟨⟨key, last⟩, member, rfl⟩
      have inside : key ∈ keys (call source function parameters callee) :=
        List.mem_cons_of_mem _ (List.mem_map_of_mem (f := Prod.fst) member)
      exact unmoved_of_taken (how.changed_self shelf) (repeats key inside)
    · exact unmoved_of_taken (Value.differs_self shelf) (repeats function List.mem_cons_self)

end Evaluator

namespace Part

variable {σ : Type} {host : Host σ} {patch : Patch} {p : Part} {s : σ}

/-- A part that went through a patch finds nothing new when the patch comes again, in whole or in
part. -/
theorem unchanged_of_absorbed (passed : (p.react host patch s).1.error? = none) {again : Patch}
    (repeats : patch.Repeats p.evaluator.keys again) :
    (p.after (p.react host patch s).1).evaluator.changed host.shelf p.comparison again = false := by
  rcases react_cases host patch p s with ⟨unchanged, idle⟩ |
    ⟨-, ⟨error, -, failed⟩ | ⟨taken, absorbed, ⟨error, failed⟩ | ⟨raw, settled⟩⟩⟩
  · rw [idle]
    exact Evaluator.unchanged_of_unchanged repeats unchanged
  · rw [failed] at passed; cases passed
  · rw [failed] at passed; cases passed
  · rw [settled, evaluator_after_settle]
    exact Evaluator.unchanged_of_absorbed repeats absorbed

end Part

namespace Live

variable {σ : Type} {host : Host (Live σ)} {patch : Patch} {now : Live σ}

/-- An update in which no part finds anything new does nothing. -/
theorem update_of_unchanged (unmoved : ∀ p ∈ now.current.parts,
    p.evaluator.changed host.shelf p.comparison patch = false) :
    now.update host patch = (none, now) := by
  have stays (place : Nat) : now.updatePlace host patch place = (none, now) := by
    cases found : now.current.parts[place]? with
    | none => simp [updatePlace, found]
    | some p => exact updatePlace_of_unchanged found (unmoved p (List.mem_of_getElem? found))
  unfold update
  induction List.range now.current.parts.length with
  | nil => rfl
  | cons place others ih => rw [updatePlaces_of_passed (by rw [stays]), stays, ih]

/-- Right after an update that nothing stops and whose functions leave the instance as it is, a
patch made of some of its entries and of keys that no part looks at has no effect: no expression is
evaluated and no edit made, whatever the functions would do, and tree, parts and everything else
stay as they are. -/
theorem absorbed_patches_idle (quiet : host.Quiet) (fine : (now.update host patch).1 = none)
    {again : Patch} (subpatch : ∀ key v, again.find? key = some v →
      patch.find? key = some v ∨ ∀ p ∈ now.current.parts, key ∉ p.evaluator.keys)
    {τ : Type} {other : Host (Live τ)} (lists : other.shelf = host.shelf) (events : List Event)
    (rest : τ) :
    (Live.mk (now.update host patch).2.current events rest).update other again =
      (none, ⟨(now.update host patch).2.current, events, rest⟩) := by
  obtain ⟨script, ⟨stop, current⟩, -⟩ :=
    exists_playback_update quiet patch now (Stream'.const now)
  have passed := stop.trans fine
  refine update_of_unchanged fun q member => ?_
  rw [lists]
  rw [current] at member
  obtain ⟨p, inside, t, rfl, reacted⟩ := Instance.mem_updated_parts _ passed member
  rw [Part.comparison_after]
  refine Part.unchanged_of_absorbed reacted fun key used v given => ?_
  rcases subpatch key v given with known | unused
  · exact known
  · exact absurd used (unused p inside)

end Live

namespace Instance

/-- A call with its own function as an argument, one whose function gives no value, one whose
function is missing, and one that reads the instance. -/
def restlessInstance : Instance :=
  let content := Node.element "p" [] [] [.text "", .text "", .text "", .text ""]
  ⟨content, bind [
    (0, [⟨.property, "row", some "item"⟩, ⟨.attributeValue, "pick(x, pick)", some "title"⟩]),
    (1, [⟨.text, "x", none⟩]), (2, [⟨.text, "nothing(row)", none⟩]),
    (3, [⟨.text, "late(x, x)", none⟩]), (4, [⟨.text, "shown()", none⟩])] 0 content.spots⟩

/-- An undefined number, an object that answers no comparison, and functions. -/
def restlessPatch : Patch :=
  [("x", .scalar (some 4) (.float .nan)), ("row", .object 5 ⟨"row", .refuses, .undecided⟩),
    ("pick", .function "last"), ("nothing", .function "unset"), ("shown", .function "peek")]

def restlessRest : Patch :=
  [("pick", .function "last"), ("unused", .int 1), ("x", .scalar (some 4) (.float .nan)),
    ("shown", .function "peek")]

/-- The stock functions, and `peek`, which tells what the instance shows by now. -/
def peeking : Host (Live Supply) where
  shelf := #[]
  call function arguments now :=
    if function = "peek" then (.ok (.str now.current.render), now)
    else (Stock.host #[]).apart.call function arguments now

theorem quiet_peeking : peeking.Quiet := by
  intro function arguments now
  unfold peeking
  dsimp only
  split <;> rfl

def restless : Live Supply := ⟨restlessInstance, [], .start⟩

theorem restlessPatch_absorbed : peeking.Quiet ∧ (restless.update peeking restlessPatch).1 = none ∧
    (∀ key v, restlessRest.find? key = some v →
      restlessPatch.find? key = some v ∨ ∀ p ∈ restless.current.parts, key ∉ p.evaluator.keys) ∧
    ∀ events rest, (Live.mk (restless.update peeking restlessPatch).2.current events rest).update
        peeking restlessRest =
      (none, ⟨(restless.update peeking restlessPatch).2.current, events, rest⟩) := by
  have fine : (restless.update peeking restlessPatch).1 = none := by decide +kernel
  have subpatch : ∀ key v, restlessRest.find? key = some v →
      restlessPatch.find? key = some v ∨
        ∀ p ∈ restless.current.parts, key ∉ p.evaluator.keys := by
    have entries : ∀ e ∈ restlessRest, restlessPatch.find? e.1 = some e.2 ∨
        ∀ p ∈ restless.current.parts, e.1 ∉ p.evaluator.keys := by
      simp only [restlessRest, List.forall_mem_cons]
      exact ⟨.inl rfl, .inr (by decide), .inl rfl, .inl rfl, List.forall_mem_nil _⟩
    exact fun key v given => entries (key, v) (Entries.mem_of_find? given)
  exact ⟨quiet_peeking, fine, subpatch,
    Live.absorbed_patches_idle quiet_peeking fine subpatch rfl⟩

/-- Two texts, the second of a call. -/
def nudgedInstance : Instance :=
  let content := Node.element "p" [] [] [.text "", .text ""]
  ⟨content, bind [(1, [⟨.text, "x", none⟩]), (2, [⟨.text, "nudge()", none⟩])] 0 content.spots⟩

def nudgedPatch : Patch := [("x", .int 1), ("nudge", .function "nudge")]

/-- With a function that gives the instance `x` anew whenever it is called. -/
def nudged : Option Error × Live Unit :=
  (Live.mk nudgedInstance [] ()).update (Host.nudging [("x", .int 2)] 1) nudgedPatch

/-- The first update ends with what the function gave, so the patch is news when it comes again. -/
theorem nudged_absorbs_again :
    nudged.1 = none ∧ nudged.2.current.render = "<p>2</p>" ∧
    (nudged.2.update (Host.nudging [("x", .int 2)] 1) nudgedPatch).1 = none ∧
    (nudged.2.update (Host.nudging [("x", .int 2)] 1) nudgedPatch).2.events =
      nudged.2.events ++ [.evaluated, .mutated .text [0] (.setText "1")] ∧
    (nudged.2.update (Host.nudging [("x", .int 2)] 1) nudgedPatch).2.current.render =
      "<p>1</p>" :=
  ⟨rfl, by decide +kernel, rfl, rfl, by decide +kernel⟩

end Instance
end LiveTemplate
