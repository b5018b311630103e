import LiveTemplate.Template.Instance

/-! Updates seen from within. A context function may have been handed the instance that calls it,
and may read it, or update it, while an update is on its way. Here a call is given the instance as
the update has left it so far, and the update goes on with the instance that the call leaves. The
functions of a plain host know nothing of the instance, and for them this is the plain update. -/
namespace LiveTemplate

/-- An instance on its way: how it stands by now, what has happened so far, and what else the
functions see. -/
structure Live (σ : Type) where
  current : Instance
  events : List Event
  rest : σ

namespace Live

variable {σ : Type}

def record (event : Event) (now : Live σ) : Live σ :=
  { now with events := now.events ++ [event] }

/-- A part has taken a patch in, and is about to come to its value. -/
def taking (place : Nat) (p : Part) (taken : Evaluator) (now : Live σ) : Live σ :=
  { now.record .evaluated with
    current := { now.current with
      parts := now.current.parts.set place { p with evaluator := taken } } }

/-- What a reaction does after the evaluation. -/
def editEvents (p : Part) : Reaction → List Event
  | .wrote _ applied => [.mutated p.descriptor.kind p.path applied.edit]
  | .refused _ edit _ => [.refused p.path edit]
  | _ => []

def follow (place : Nat) (p : Part) (r : Reaction) (now : Live σ) : Option Error × Live σ :=
  (r.error?, { now with
    current := ⟨Instance.applyReaction p r now.current.content,
      now.current.parts.set place (p.after r)⟩
    events := now.events ++ editEvents p r })

/-- A raw value meets the part as the call has left it. -/
def settle (shelf : Shelf) (place : Nat) (raw : Value) (now : Live σ) : Option Error × Live σ :=
  match now.current.parts[place]? with
  | some p => now.follow place p (p.settle shelf p.evaluator raw)
  | none => (none, now)

def updatePlace (host : Host (Live σ)) (patch : Patch) (place : Nat) (now : Live σ) :
    Option Error × Live σ :=
  match now.current.parts[place]? with
  | none => (none, now)
  | some p =>
    if p.evaluator.changed host.shelf p.comparison patch then
      match p.evaluator.absorb patch with
      | .error error => (some error, now.record .evaluated)
      | .ok taken =>
        match taken.value host (now.taking place p taken) with
        | (.ok raw, later) => later.settle host.shelf place raw
        | (.error error, later) => (some error, later)
    else (none, now)

def updatePlaces (host : Host (Live σ)) (patch : Patch) : List Nat → Live σ →
    Option Error × Live σ
  | [], now => (none, now)
  | place :: others, now =>
    match now.updatePlace host patch place with
    | (none, later) => updatePlaces host patch others later
    | stopped => stopped

def update (host : Host (Live σ)) (patch : Patch) (now : Live σ) : Option Error × Live σ :=
  updatePlaces host patch (List.range now.current.parts.length) now

/-- Several patches one after the other, as long as none fails. -/
def updateAll (host : Host (Live σ)) : List Patch → Live σ → Option Error × Live σ
  | [], now => (none, now)
  | patch :: others, now =>
    match now.update host patch with
    | (none, later) => updateAll host others later
    | stopped => stopped

end Live

namespace Host

variable {σ : Type}

/-- The functions of a host that knows nothing of instances. -/
def apart (host : Host σ) : Host (Live σ) where
  shelf := host.shelf
  call function arguments now :=
    let (answer, rest) := host.call function arguments now.rest
    (answer, { now with rest })

/-- Functions that may read the instance that calls them, but leave it as it is. -/
def Quiet (host : Host (Live σ)) : Prop :=
  ∀ function arguments now, (host.call function arguments now).2.current = now.current

theorem quiet_apart (host : Host σ) : host.apart.Quiet := fun _ _ _ => rfl

end Host
end LiveTemplate
