import LiveTemplate.Function.Stock
import LiveTemplate.Proofs.Instance.Reactions
import LiveTemplate.Proofs.Part.Settled
import LiveTemplate.Proofs.Value.Cast
import Mathlib.Data.List.Destutter

/-! The edits of a run. Over any number of ordinary patches a part makes exactly the edits that its
binding is to apply for all that is known by then, without the repetitions among them. -/
namespace LiveTemplate

namespace Descriptor

variable {σ : Type} {host : Host σ} {known : Knowledge} {d : Descriptor}

/-- The edit that is due for all that is known, by which the binding shows the value of its
expression; none while there is no value. -/
def due (host : Host σ) (known : Knowledge) (d : Descriptor) (s : σ) :
    Except Error (Option Edit) := do
  match ← Expression.value host known d.expression s with
  | some v => return some (← d.editFor host.shelf v)
  | none => return none

theorem map_edit_effect (s : σ) :
    (d.effect host known s).map (Option.map Applied.edit) = d.due host known s := by
  unfold effect due
  cases Expression.value host known d.expression s with
  | error error => rfl
  | ok present =>
    cases present with
    | none => rfl
    | some v =>
      simp only [bind, Except.bind, ← map_edit_cast]
      cases d.cast host.shelf v <;> rfl

/-- Unless it is a property that is set, the outcome tells the edit that is due. -/
theorem due_of_outcome (how : d.kind.comparison = .byValue) {s : σ} {cast : Option Applied}
    (outcome : d.outcome host known s = .ok cast) :
    d.due host known s = .ok (cast.map Applied.edit) := by
  obtain ⟨exact, effect, rfl⟩ := outcome_eq_ok_iff.mp outcome
  rw [← map_edit_effect, effect]
  cases exact with
  | none => rfl
  | some a =>
    obtain ⟨v, -, cast⟩ := effect_cases effect
    exact congrArg (fun edit => Except.ok (some edit)) (edit_form_of_byValue how cast).symm

theorem due_eq_none_iff (ordinary : known.Ordinary host) (s : σ) :
    d.due host known s = .ok none ↔
      known (Expression.Source.parse d.expression).subject = none := by
  rw [← outcome_eq_none_iff ordinary s, ← map_edit_effect, outcome]
  cases d.effect host known s <;> simp [Except.map]

/-- The edits that are due after each of the patches, whatever the host's state. -/
def Yields (host : Host σ) (known : Knowledge) (d : Descriptor) (patches : List Patch)
    (edits : List (Option Edit)) : Prop :=
  edits.length = patches.length ∧ ∀ (k : Nat) (edit : Option Edit), edits[k]? = some edit →
    ∀ s, d.due host ((patches.take (k + 1)).foldl Knowledge.learn known) s = .ok edit

theorem Yields.cons {patch : Patch} {patches : List Patch} {edit : Option Edit}
    {edits : List (Option Edit)} (first : ∀ s, d.due host (known.learn patch) s = .ok edit)
    (later : d.Yields host (known.learn patch) patches edits) :
    d.Yields host known (patch :: patches) (edit :: edits) := by
  refine ⟨by simp [later.1], ?_⟩
  intro k c found
  cases k with
  | zero => cases found; exact first
  | succ k => exact later.2 k c found

end Descriptor

/-- What there is in a list, with its places. -/
def dated {α : Type} (place : Nat) : List (Option α) → List (Nat × α)
  | [] => []
  | none :: rest => dated (place + 1) rest
  | some a :: rest => (place, a) :: dated (place + 1) rest

open Classical in
/-- Of consecutive entries with the same edit, the first is kept. -/
noncomputable def withoutRepetitions (entries : List (Nat × Edit)) : List (Nat × Edit) :=
  entries.destutter fun a b => a.2 ≠ b.2

open Classical in
/-- What is kept of some entries and one before them. -/
noncomputable def keptFrom (entry : Nat × Edit) (entries : List (Nat × Edit)) :
    List (Nat × Edit) :=
  entries.destutter' (fun a b => a.2 ≠ b.2) entry

open Classical in
theorem keptFrom_of_same {entry next : Nat × Edit} (same : entry.2 = next.2)
    (entries : List (Nat × Edit)) :
    keptFrom entry (next :: entries) = keptFrom entry entries :=
  List.destutter'_cons_neg entries (not_not_intro same)

open Classical in
theorem keptFrom_of_apart {entry next : Nat × Edit} (apart : entry.2 ≠ next.2)
    (entries : List (Nat × Edit)) :
    keptFrom entry (next :: entries) = entry :: keptFrom next entries :=
  List.destutter'_cons_pos entries apart

namespace Part

/-- The edits that updates make which find `before` made and for which `due` tells the edits that
are due. -/
def Edited : (before : Option Edit) → (due made : List (Option Edit)) → Prop
  | _, [], [] => True
  | before, now :: due, edit :: made =>
    Moved before now edit ∧ (before ≠ none → now ≠ none) ∧ Edited now due made
  | _, _, _ => False

theorem Edited.dated_of_some {due made : List (Option Edit)} {e : Edit}
    (edited : Edited (some e) due made) (start place : Nat) :
    (start, e) :: dated place made = keptFrom (start, e) (dated place due) := by
  induction due generalizing made e start place with
  | nil =>
    cases made with
    | nil => rfl
    | cons edit made => cases edited
  | cons now due ih =>
    cases made with
    | nil => cases edited
    | cons edit made =>
      obtain ⟨moved, stays, later⟩ := edited
      cases now with
      | none => exact absurd rfl (stays (Option.some_ne_none e))
      | some next =>
        rcases moved with ⟨same, rfl⟩ | ⟨apart, rfl⟩
        · cases same
          have same : (start, e).2 = (place, e).2 := rfl
          rw [dated, dated, keptFrom_of_same same]
          exact ih later start (place + 1)
        · have new : e ≠ next := fun same => apart (congrArg some same.symm)
          rw [dated, dated, keptFrom_of_apart new, ← ih later place (place + 1)]

/-- The edits that are made are those that are due, without repetitions. -/
theorem Edited.dated {due made : List (Option Edit)} (edited : Edited none due made)
    (place : Nat) :
    LiveTemplate.dated place made = withoutRepetitions (LiveTemplate.dated place due) := by
  induction due generalizing made place with
  | nil =>
    cases made with
    | nil => rfl
    | cons edit made => cases edited
  | cons now due ih =>
    cases made with
    | nil => cases edited
    | cons edit made =>
      obtain ⟨moved, -, later⟩ := edited
      cases now with
      | none =>
        have nothing : edit = none := by
          rcases moved with ⟨-, rfl⟩ | ⟨apart, -⟩
          · rfl
          · exact absurd rfl apart
        rw [nothing]
        exact ih later (place + 1)
      | some e =>
        have written : edit = some e := by
          rcases moved with ⟨same, -⟩ | ⟨-, rfl⟩
          · cases same
          · rfl
        rw [written]
        exact later.dated_of_some place (place + 1)

theorem comparison_of_kind {p : Part} (kind : p.descriptor.kind ≠ .property) :
    p.descriptor.kind.comparison = .byValue := by
  cases same : p.descriptor.kind with
  | property => exact absurd same kind
  | _ => rfl

end Part

namespace Instance

variable {σ : Type} {host : Host σ}

/-- A part through an update that nothing stops. -/
theorem settled_update {known : Knowledge} {patch : Patch} {i : Instance} {s : σ}
    (ordinary : known.Ordinary host) (given : patch.Ordinary host)
    (fine : (i.update host patch s).error = none) {j : Nat} {p : Part} {before : Option Applied}
    (part : i.parts[j]? = some p) (settled : p.Settled host known before) :
    ∃ (after : Option Applied) (q : Part),
      (i.update host patch s).updated.parts[j]? = some q ∧ q.descriptor = p.descriptor ∧
      q.path = p.path ∧ q.Settled host (known.learn patch) after ∧
      (p.comparison = .byValue → Part.Moved (before.map Applied.edit) (after.map Applied.edit)
        (((reactions host patch i.parts s).1)[j]?.bind Reaction.edit?)) ∧
      (before ≠ none → after ≠ none) := by
  rw [update_eq] at fine ⊢
  obtain ⟨t, reaction, passed⟩ := reaction_at host patch fine part
  obtain ⟨after, later, moved, stays⟩ := settled.react ordinary given passed
  refine ⟨after, _, getElem?_partsAfter part reaction, Part.descriptor_after .., Part.path_after ..,
    later, ?_, stays⟩
  rw [reaction]
  exact moved

/-- A part through a run that nothing stops, unless it sets a property: which edits are due after
each patch and which it makes. -/
theorem edited_updateAll {known : Knowledge} {patches : List Patch} {i : Instance} {s : σ}
    (ordinary : known.Ordinary host)
    (given : ∀ patch ∈ patches, patch.Ordinary host)
    (fine : (updateAll host patches i s).error = none) {j : Nat} {p : Part}
    {before : Option Applied} (part : i.parts[j]? = some p)
    (kind : p.descriptor.kind ≠ .property) (settled : p.Settled host known before) :
    ∃ due, p.descriptor.Yields host known patches due ∧
      Part.Edited (before.map Applied.edit) due
        ((history host patches i s).map (·[j]?.bind Reaction.edit?)) := by
  induction patches generalizing known i s p before with
  | nil => exact ⟨[], ⟨rfl, by simp⟩, trivial⟩
  | cons patch rest ih =>
    obtain ⟨here, others⟩ := List.forall_mem_cons.mp given
    obtain ⟨passed, fineLater⟩ := passed_of_updateAll host fine
    obtain ⟨after, q, found, descriptor, -, later, moved, stays⟩ :=
      settled_update ordinary here passed part settled
    rw [history_of_passed host passed]
    have how := Part.comparison_of_kind kind
    rw [← descriptor] at kind
    obtain ⟨due, yields, edited⟩ := ih (ordinary.learn here) others fineLater found kind later
    rw [descriptor] at yields
    refine ⟨after.map Applied.edit :: due, .cons (fun t => ?_) yields, moved how, ?_, edited⟩
    · exact Descriptor.due_of_outcome how (descriptor ▸ later.outcome t)
    · simpa using stays

theorem fresh_of_ofTemplate {t : Template} {i : Instance} (made : ofTemplate t = .ok i) {p : Part}
    (member : p ∈ i.parts) : p.Fresh := by
  have bound (table : BindingTable) (index : Nat) (spots : List (Path × Node)) :
      ∀ p ∈ Instance.bind table index spots, p.Fresh := by
    induction spots generalizing index with
    | nil => simp [Instance.bind]
    | cons spot spots ih =>
      intro p member
      rcases List.mem_append.mp member with here | behind
      · obtain ⟨d, -, rfl⟩ := List.mem_map.mp here
        rfl
      · exact ih (index + 1) p behind
  unfold ofTemplate at made
  cases copied : t.content.clone with
  | error error => rw [copied] at made; cases made
  | ok content =>
    rw [copied] at made
    cases made
    exact bound _ _ _ p member

theorem length_history {patches : List Patch} {i : Instance} {s : σ}
    (fine : (updateAll host patches i s).error = none) :
    (history host patches i s).length = patches.length := by
  induction patches generalizing i s with
  | nil => rfl
  | cons patch rest ih =>
    obtain ⟨passed, later⟩ := passed_of_updateAll host fine
    rw [history_of_passed host passed, List.length_cons, ih later, List.length_cons]

/-- In a run of ordinary patches that nothing stops, the events come update after update and part
after part, and each part, unless it sets a property, makes the edits that are due without
repetitions, each in the update whose patch asks for it. Due is the edit that shows the value of
the expression for all that is known by then, and none until its subject is given. -/
theorem edits_without_repetitions {t : Template} {i : Instance} (made : ofTemplate t = .ok i)
    {patches : List Patch}
    (given : ∀ patch ∈ patches, patch.Ordinary host)
    {s : σ} (fine : (updateAll host patches i s).error = none) :
    (history host patches i s).length = patches.length ∧
      (updateAll host patches i s).events =
        ((history host patches i s).map (eventsOf i.parts)).flatten ∧
      ∀ (j : Nat) (p : Part), i.parts[j]? = some p → p.descriptor.kind ≠ .property → ∃ due,
        p.descriptor.Yields host .nothing patches due ∧
        (∀ k, k < patches.length → (due[k]? = some none ↔
          Knowledge.ofPatches (patches.take (k + 1))
            (Expression.Source.parse p.descriptor.expression).subject = none)) ∧
        dated 0 ((history host patches i s).map (·[j]?.bind Reaction.edit?)) =
          withoutRepetitions (dated 0 due) := by
  refine ⟨length_history fine, events_updateAll host patches i s, ?_⟩
  intro j p part kind
  have fresh := fresh_of_ofTemplate made (List.mem_of_getElem? part)
  obtain ⟨due, yields, edited⟩ :=
    edited_updateAll .nothing given fine part kind (.of_fresh fresh)
  refine ⟨due, yields, ?_, edited.dated 0⟩
  intro k inside
  have bound : k < due.length := yields.1 ▸ inside
  have now := yields.2 k due[k] (List.getElem?_eq_getElem bound) s
  have known : (Knowledge.ofPatches (patches.take (k + 1))).Ordinary host :=
    .ofPatches fun patch member => given patch (List.mem_of_mem_take member)
  rw [List.getElem?_eq_getElem bound, Option.some.injEq, ← Descriptor.due_eq_none_iff known s]
  exact ⟨fun none => none ▸ now, fun never => Except.ok.inj (now.symm.trans never)⟩

/-- Two parts share a key, one has a parameter twice, and one never gets its argument. -/
def talliedTemplate : Template :=
  ⟨.fragment [.text "", .element "p" [] [] [.text ""]],
    [(0, [⟨.text, "word", none⟩]),
      (1, [⟨.booleanAttribute, "word", some "hidden"⟩,
        ⟨.attributeValue, "tally(word, word)", some "title"⟩]),
      (2, [⟨.text, "tally(more)", none⟩])]⟩

def talliedInstance : Instance :=
  ⟨talliedTemplate.content, bind talliedTemplate.table 0 talliedTemplate.content.spots⟩

/-- A function arrives after its parameter, a value comes back after another, and then another
object with the same characters. -/
def talliedPatches : List Patch :=
  [[("word", .str "a")], [("tally", .function "count"), ("word", .null)], [("more", .int 1)],
    [("word", .str "a")], [("word", .scalar (some 5) (.str "a"))]]

theorem count_tame : (Stock.host #[]).Tame "count" := by
  refine fun vs _ => ⟨.int vs.length, rfl, fun ws forms s => ?_⟩
  have lengths : ws.length = vs.length := by simpa using congrArg List.length forms
  rw [← lengths]
  rfl

theorem ordinary_of_counting {patch : Patch}
    (entries : ∀ e ∈ patch, e.2.isPlain = true ∨ e.2 = .function "count") :
    patch.Ordinary (Stock.host #[]) := by
  refine Patch.ordinary_of_entries fun e inside => ?_
  rcases entries e inside with plain | function
  · exact .inl plain
  · exact .inr ⟨"count", function, count_tame⟩

theorem talliedPatches_ordinary :
    ∀ patch ∈ talliedPatches, patch.Ordinary (Stock.host #[]) := by
  have admitted : ∀ patch ∈ talliedPatches, ∀ e ∈ patch,
      e.2.isPlain = true ∨ e.2 = .function "count" := by
    simp [talliedPatches, Value.isPlain, or_imp, forall_and]
  exact fun patch member => ordinary_of_counting (admitted patch member)

/-- The edits that the parts make, with the updates in which they make them. -/
def talliedEdits : List (List (Nat × Edit)) :=
  [[(0, .setText "a"), (1, .setText ""), (3, .setText "a")],
    [(0, .toggleAttribute (some "hidden") true), (1, .toggleAttribute (some "hidden") false),
      (3, .toggleAttribute (some "hidden") true)],
    [(1, .setAttribute (some "title") "2")], [(1, .setText "1")]]

theorem tallied_without_repetitions :
    ofTemplate talliedTemplate = .ok talliedInstance ∧
    (∀ patch ∈ talliedPatches, patch.Ordinary (Stock.host #[])) ∧
    (updateAll (Stock.host #[]) talliedPatches talliedInstance Supply.start).error = none ∧
    ∀ (j : Nat) (p : Part), talliedInstance.parts[j]? = some p → ∃ due edits,
      p.descriptor.Yields (Stock.host #[]) .nothing talliedPatches due ∧
      (∀ k, k < talliedPatches.length → (due[k]? = some none ↔ Knowledge.ofPatches
        (talliedPatches.take (k + 1))
        (Expression.Source.parse p.descriptor.expression).subject = none)) ∧
      talliedEdits[j]? = some edits ∧ withoutRepetitions (dated 0 due) = edits ∧
      dated 0 ((history (Stock.host #[]) talliedPatches talliedInstance Supply.start).map
          (·[j]?.bind Reaction.edit?)) = edits := by
  have made : ofTemplate talliedTemplate = .ok talliedInstance := rfl
  have fine : (updateAll (Stock.host #[]) talliedPatches talliedInstance Supply.start).error =
      none := by decide
  refine ⟨made, talliedPatches_ordinary, fine, fun j p part => ?_⟩
  have kind : p.descriptor.kind ≠ .property := by
    have bound : ∀ p ∈ talliedInstance.parts, p.descriptor.kind ≠ .property := by decide
    exact bound p (List.mem_of_getElem? part)
  obtain ⟨due, yields, subjects, edits⟩ :=
    (edits_without_repetitions made talliedPatches_ordinary fine).2.2 j p part kind
  have explicit : talliedEdits[j]? = some (dated 0
      ((history (Stock.host #[]) talliedPatches talliedInstance Supply.start).map
        (·[j]?.bind Reaction.edit?))) := by
    have inside : j < 4 := (List.getElem?_eq_some_iff.mp part).1
    obtain rfl | rfl | rfl | rfl : j = 0 ∨ j = 1 ∨ j = 2 ∨ j = 3 := by omega
    all_goals rfl
  exact ⟨due, _, yields, subjects, explicit, edits.symm, rfl⟩

end Instance
end LiveTemplate
