import LiveTemplate.Proofs.Function.Purity
import LiveTemplate.Proofs.Part.Effect
import LiveTemplate.Proofs.Value.Cast

/-! A part in two courses of events. Patches that agree on its keys are taken in alike, so its
evaluator is the same in both, and what it applies are twins: it edits its node in the one exactly
if it does in the other. -/
namespace LiveTemplate

/-- Under these keys both patches give the same objects. -/
def Patch.AgreeOn (keys : List String) (patch other : Patch) : Prop :=
  ∀ key ∈ keys, patch.find? key = other.find? key

namespace Evaluator

variable {shelf : Shelf} {how : Comparison} {patch other : Patch} {e taken : Evaluator}

/-- What an evaluator remembers. -/
def kept : Evaluator → List Value
  | lookup _ last => [last]
  | call _ _ parameters callee => callee :: parameters.map (·.2)

theorem moves_eq_of_agree {key : String} (agree : patch.find? key = other.find? key)
    (counts : Value → Value → Bool) (last : Value) :
    moves counts patch key last = moves counts other key last := by
  rw [moves, moves, agree]

theorem changed_eq_of_agree (agree : patch.AgreeOn e.keys other) :
    e.changed shelf how patch = e.changed shelf how other := by
  cases e with
  | lookup key last => exact moves_eq_of_agree (agree key List.mem_cons_self) _ _
  | call source function parameters callee =>
    obtain ⟨callees, arguments⟩ := List.forall_mem_cons.mp agree
    have each (entry : String × Value) (member : entry ∈ parameters) :
        moves (how.changed shelf) patch entry.1 entry.2 =
          moves (how.changed shelf) other entry.1 entry.2 :=
      moves_eq_of_agree (arguments _ (List.mem_map_of_mem member)) _ _
    rw [changed, changed, moves_eq_of_agree callees, Bool.eq_iff_iff, Bool.or_eq_true,
      Bool.or_eq_true, List.any_eq_true, List.any_eq_true]
    refine or_congr_left (exists_congr fun entry => and_congr_right fun member => ?_)
    exact Bool.eq_iff_iff.mp (each entry member)

theorem absorb_eq_of_agree (agree : patch.AgreeOn e.keys other) :
    e.absorb patch = e.absorb other := by
  cases e with
  | lookup key last => rw [absorb, absorb, agree key List.mem_cons_self]
  | call source function parameters callee =>
    obtain ⟨callees, arguments⟩ := List.forall_mem_cons.mp agree
    have each : parameters.map (absorbParameter patch) =
        parameters.map (absorbParameter other) := by
      refine List.map_congr_left fun entry member => ?_
      rw [absorbParameter, absorbParameter, arguments _ (List.mem_map_of_mem member)]
    rw [absorb, absorb, callees, each]

theorem keys_of_absorb (absorbed : e.absorb patch = .ok taken) : taken.keys = e.keys := by
  cases e with
  | lookup key last => cases absorbed; rfl
  | call source function parameters callee =>
    rw [eq_of_absorb_call absorbed]
    simp [keys, absorbParameter, Function.comp_def]

/-- What is remembered comes from the patch or was remembered before. -/
theorem kept_of_absorb {P : Value → Prop} (absorbed : e.absorb patch = .ok taken)
    (before : ∀ v ∈ e.kept, P v) (given : ∀ key ∈ e.keys, ∀ v, patch.find? key = some v → P v)
    (null : P .null) : ∀ v ∈ taken.kept, P v := by
  have newest {key : String} (used : key ∈ e.keys) {last : Value} (old : P last) :
      P ((patch.find? key).getD last) := by
    cases found : patch.find? key with
    | none => exact old
    | some v => exact given key used v found
  cases e with
  | lookup key last =>
    cases absorbed
    exact List.forall_mem_singleton.mpr (newest List.mem_cons_self null)
  | call source function parameters callee =>
    rw [eq_of_absorb_call absorbed]
    obtain ⟨known, arguments⟩ := List.forall_mem_cons.mp before
    refine List.forall_mem_cons.mpr ⟨newest List.mem_cons_self known, fun v inside => ?_⟩
    obtain ⟨entry, absorbedEntry, rfl⟩ := List.mem_map.mp inside
    obtain ⟨⟨key, last⟩, member, rfl⟩ := List.mem_map.mp absorbedEntry
    exact newest (List.mem_cons_of_mem _ (List.mem_map_of_mem (f := Prod.fst) member))
      (arguments last (List.mem_map_of_mem (f := Prod.snd) member))

/-- Evaluated in two states, what was remembered yields corresponding answers. -/
theorem value_corresponds {σ : Type} {host : Host σ} {origins : Origins host}
    (known : ∀ v ∈ e.kept, origins.Given v) {s t : σ} (ready : origins.Ready s)
    (other : origins.Ready t) :
    ∃ pairs, origins.Corresponds s (e.value host s).2 t (e.value host t).2 pairs ∧
      Alike (Value.Twin pairs) (e.value host s).1 (e.value host t).1 := by
  cases e with
  | lookup key last =>
    exact ⟨_, .refl s t, .ok (known last List.mem_cons_self).1⟩
  | call source function parameters callee =>
    obtain ⟨subject, arguments⟩ := List.forall_mem_cons.mp known
    cases callee with
    | function name =>
      exact subject.2 name rfl _ s t (fun v inside => (arguments v inside).1) ready other
    | _ => exact ⟨_, .refl s t, .ok (.plain rfl)⟩

end Evaluator

/-- The same edit, but for the object that a property is given. -/
inductive Edit.Twin (pairs : Identity → Identity → Prop) : Edit → Edit → Prop where
  | setText (data : String) : Twin pairs (.setText data) (.setText data)
  | setAttribute (name : FieldName) (value : String) :
      Twin pairs (.setAttribute name value) (.setAttribute name value)
  | toggleAttribute (name : FieldName) (on : Bool) :
      Twin pairs (.toggleAttribute name on) (.toggleAttribute name on)
  | setProperty (name : FieldName) {v w : Value} (twins : v.Twin pairs w) :
      Twin pairs (.setProperty name v) (.setProperty name w)

structure Applied.Twin (pairs : Identity → Identity → Prop) (a b : Applied) : Prop where
  value : a.value.Twin pairs b.value
  edit : a.edit.Twin pairs b.edit

/-- The same reaction, but for the objects that it applies. -/
inductive Reaction.Twin (pairs : Identity → Identity → Prop) : Reaction → Reaction → Prop where
  | idle : Twin pairs .idle .idle
  | withheld (e : Evaluator) : Twin pairs (.withheld e) (.withheld e)
  | settled (e : Evaluator) : Twin pairs (.settled e) (.settled e)
  | wrote (e : Evaluator) {a b : Applied} (twins : a.Twin pairs b) :
      Twin pairs (.wrote e a) (.wrote e b)
  | refused (e : Evaluator) {edit other : Edit} (twins : edit.Twin pairs other) (error : Error) :
      Twin pairs (.refused e edit error) (.refused e other error)
  | failed (e : Evaluator) (error : Error) : Twin pairs (.failed e error) (.failed e error)

section Twins

variable {pairs others : Identity → Identity → Prop} {shelf : Shelf}

theorem Edit.Twin.mono (more : ∀ i j, pairs i j → others i j) {e d : Edit}
    (twins : e.Twin pairs d) : e.Twin others d := by
  cases twins with
  | setText data => exact .setText data
  | setAttribute name value => exact .setAttribute name value
  | toggleAttribute name on => exact .toggleAttribute name on
  | setProperty name twins => exact .setProperty name (twins.mono more)

theorem Edit.twins_mono (more : ∀ i j, pairs i j → others i j) {e d : Option Edit}
    (twins : Option.Rel (Edit.Twin pairs) e d) : Option.Rel (Edit.Twin others) e d := by
  cases twins with
  | none => exact .none
  | some twins => exact .some (twins.mono more)

theorem Edit.Twin.fits_eq {e d : Edit} (twins : e.Twin pairs d) (type : NodeType) :
    e.fits type = d.fits type := by cases twins <;> rfl

theorem Edit.Twin.member_eq {e d : Edit} (twins : e.Twin pairs d) : e.member = d.member := by
  cases twins <;> rfl

theorem Reaction.Twin.edit? {r q : Reaction} (twins : r.Twin pairs q) :
    Option.Rel (Edit.Twin pairs) r.edit? q.edit? := by
  cases twins with
  | wrote e twins => exact .some twins.edit
  | _ => exact .none

namespace Descriptor

variable {d : Descriptor} {v w : Value}

/-- Twins are cast to twins. -/
theorem cast_alike (oneToOne : Relator.BiUnique pairs)
    (lists : ∀ place, ∀ v ∈ shelf.items place, v.Twin pairs v) (twins : v.Twin pairs w) :
    Alike (fun a b => a.Twin pairs b ∧ (d.kind ≠ .property → a.value = b.value))
      (d.cast shelf v) (d.cast shelf w) := by
  by_cases kind : d.kind = .property
  · rw [cast_property kind, cast_property kind]
    exact .ok ⟨⟨twins, .setProperty d.name twins⟩, fun other => absurd kind other⟩
  · rw [cast_congr kind twins.truth?_eq (twins.display_eq oneToOne lists)]
    cases applied : d.cast shelf w with
    | error error => exact .error error
    | ok a =>
      have own : a.Twin pairs a := by
        rcases cast_cases applied with ⟨-, s, -, rfl⟩ | ⟨-, s, -, rfl⟩ | ⟨-, b, -, rfl⟩ | ⟨same, -⟩
        · exact ⟨.plain rfl, .setText s⟩
        · exact ⟨.plain rfl, .setAttribute d.name s⟩
        · exact ⟨.plain rfl, .toggleAttribute d.name b⟩
        · exact absurd same kind
      exact .ok ⟨own, fun _ => rfl⟩

end Descriptor

end Twins

namespace Part

variable {σ : Type} {host : Host σ} {origins : Origins host}
  {pairs others : Identity → Identity → Prop} {p q : Part}

/-- Two parts in the same state, but for the object that a property was given last. The evaluator
remembers given values only. -/
structure Counterpart (origins : Origins host) (pairs : Identity → Identity → Prop) (p q : Part) :
    Prop where
  rest : q = { p with value := q.value }
  value : p.value.Twin pairs q.value
  apart : p.descriptor.kind ≠ .property → p.value = q.value
  known : ∀ v ∈ p.evaluator.kept, origins.Given v

/-- Two parts react alike if the reactions are twins and make counterparts of them again. -/
structure ReactAlike (origins : Origins host) (pairs : Identity → Identity → Prop) (p q : Part)
    (r r' : Reaction) : Prop where
  reactions : r.Twin pairs r'
  parts : Counterpart origins pairs (p.after r) (q.after r')

namespace Counterpart

theorem mono (more : ∀ i j, pairs i j → others i j) (alike : Counterpart origins pairs p q) :
    Counterpart origins others p q :=
  { alike with value := alike.value.mono more }

/-- Both evaluators have taken the same in. -/
theorem take (alike : Counterpart origins pairs p q) {e : Evaluator}
    (known : ∀ v ∈ e.kept, origins.Given v) :
    Counterpart origins pairs { p with evaluator := e } { q with evaluator := e } where
  rest := by rw [alike.rest]
  value := alike.value
  apart := alike.apart
  known := known

/-- Whether a value differs from the one applied last is the same on both sides. -/
theorem changed_eq (oneToOne : Relator.BiUnique pairs) (alike : Counterpart origins pairs p q)
    {v w : Value} (twins : v.Twin pairs w) (apart : p.descriptor.kind ≠ .property → v = w) :
    p.comparison.changed host.shelf v p.value = q.comparison.changed host.shelf w q.value := by
  have same : q.comparison = p.comparison := by rw [alike.rest]; rfl
  rw [same]
  by_cases kind : p.descriptor.kind = .property
  · have follows : p.comparison = .byIdentity := by rw [comparison, kind]; rfl
    rw [follows]
    exact congrArg not (twins.same_eq oneToOne alike.value)
  · rw [apart kind, alike.apart kind]

theorem write (alike : Counterpart origins pairs p q) {e : Evaluator}
    (known : ∀ v ∈ e.kept, origins.Given v) {a b : Applied} (twins : a.Twin pairs b)
    (apart : p.descriptor.kind ≠ .property → a.value = b.value) :
    ReactAlike origins pairs p q (p.write e a) (q.write e b) := by
  have type : q.nodeType = p.nodeType := by rw [alike.rest]
  rw [Part.write, Part.write, type, ← twins.edit.fits_eq, ← twins.edit.member_eq]
  split
  · exact ⟨.wrote e twins, ⟨by rw [alike.rest]; rfl, twins.value, apart, known⟩⟩
  · exact ⟨.refused e twins.edit _, alike.take known⟩

/-- Twins are settled alike. -/
theorem settle (oneToOne : Relator.BiUnique pairs) (fixed : ∀ i, origins.old i → pairs i i)
    (alike : Counterpart origins pairs p q) {e : Evaluator}
    (known : ∀ v ∈ e.kept, origins.Given v) {v w : Value} (twins : v.Twin pairs w) :
    ReactAlike origins pairs p q (p.settle host.shelf e v) (q.settle host.shelf e w) := by
  have lists : ∀ place, ∀ v ∈ host.shelf.items place, v.Twin pairs v :=
    fun place v inside => (origins.lists place v inside).twin fixed
  have descriptor : q.descriptor = p.descriptor := by rw [alike.rest]
  have unset : isUnset v = isUnset w := by cases twins <;> rfl
  have casts := Descriptor.cast_alike (d := p.descriptor) oneToOne lists twins
  rw [Part.settle, Part.settle, unset, descriptor]
  split
  · exact ⟨.withheld e, alike.take known⟩
  · generalize p.descriptor.cast host.shelf v = first at casts ⊢
    generalize p.descriptor.cast host.shelf w = second at casts ⊢
    cases casts with
    | error error => exact ⟨.failed e error, alike.take known⟩
    | ok related =>
      obtain ⟨applied, apart⟩ := related
      dsimp only
      rw [alike.changed_eq oneToOne applied.value apart]
      split
      · exact alike.write known applied apart
      · exact ⟨.settled e, alike.take known⟩

/-- Counterparts react alike to patches that agree on their keys, whatever happened elsewhere; what
their functions make corresponds. -/
theorem react {s₀ s t₀ t : σ} (corresponds : origins.Corresponds s₀ s t₀ t pairs)
    (ready : origins.Ready s₀) (other : origins.Ready t₀) (alike : Counterpart origins pairs p q)
    {patch partner : Patch} (agree : patch.AgreeOn p.evaluator.keys partner)
    (given : ∀ key ∈ p.evaluator.keys, ∀ v, patch.find? key = some v → origins.Given v) :
    ∃ others, (∀ i j, pairs i j → others i j) ∧
      origins.Corresponds s₀ (p.react host patch s).2 t₀ (q.react host partner t).2 others ∧
      ReactAlike origins others p q (p.react host patch s).1 (q.react host partner t).1 := by
  have evaluator : q.evaluator = p.evaluator := by rw [alike.rest]
  have comparison : q.comparison = p.comparison := by rw [alike.rest]; rfl
  have change : q.evaluator.changed host.shelf q.comparison partner =
      p.evaluator.changed host.shelf p.comparison patch := by
    rw [evaluator, comparison]
    exact (Evaluator.changed_eq_of_agree agree).symm
  have absorption : q.evaluator.absorb partner = p.evaluator.absorb patch := by
    rw [evaluator]
    exact (Evaluator.absorb_eq_of_agree agree).symm
  cases moved : p.evaluator.changed host.shelf p.comparison patch with
  | false =>
    rw [react_of_unchanged moved, react_of_unchanged (change.trans moved)]
    exact ⟨pairs, fun _ _ pair => pair, corresponds, .idle, alike⟩
  | true =>
    have followed := change.trans moved
    cases absorbed : p.evaluator.absorb patch with
    | error error =>
      rw [react_of_rejected moved absorbed,
        react_of_rejected followed (absorption.trans absorbed), evaluator]
      exact ⟨pairs, fun _ _ pair => pair, corresponds, .failed _ error, alike.take alike.known⟩
    | ok taken =>
      rw [react_of_absorbed moved absorbed, react_of_absorbed followed (absorption.trans absorbed)]
      have known := Evaluator.kept_of_absorb absorbed alike.known given Origins.given_null
      obtain ⟨made, later, answers⟩ := taken.value_corresponds known
        (ready.later corresponds.first) (other.later corresponds.second)
      have both := corresponds.trans ready other later
      have kept := alike.mono fun i j pair => Or.inl (b := made i j) pair
      refine ⟨_, fun _ _ pair => .inl pair, both, ?_⟩
      generalize (taken.value host s).1 = first at answers ⊢
      generalize (taken.value host t).1 = second at answers ⊢
      cases answers with
      | error error => exact ⟨.failed taken error, kept.take known⟩
      | ok results =>
        exact kept.settle both.oneToOne both.old known (results.mono fun _ _ => .inr)

end Counterpart
end Part
end LiveTemplate
