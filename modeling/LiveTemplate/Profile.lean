import LiveTemplate.Event

/-! Profiles: counts of what happened in a block. -/
namespace LiveTemplate

structure Profile where
  templatesCompiled : Nat
  partsDeclared : Nat
  instancesCreated : Nat
  partsBound : Nat
  evaluations : Nat
  mutationsOf : BindingKind → Nat

namespace Profile

def empty : Profile := ⟨0, 0, 0, 0, 0, fun _ => 0⟩

def record (p : Profile) : Event → Profile
  | .compiled _ parts =>
    { p with
      templatesCompiled := p.templatesCompiled + 1
      partsDeclared := p.partsDeclared + parts }
  | .instantiated parts =>
    { p with
      instancesCreated := p.instancesCreated + 1
      partsBound := p.partsBound + parts }
  | .evaluated => { p with evaluations := p.evaluations + 1 }
  | .mutated kind _ _ =>
    { p with mutationsOf := fun k => p.mutationsOf k + if k = kind then 1 else 0 }
  | .refused _ _ => p

def ofEvents (events : List Event) : Profile := events.foldl record empty

/-- The kinds that mutate, in the order of their names. -/
def kinds : List BindingKind := [.attributeValue, .booleanAttribute, .property, .text]

def mutations (p : Profile) : Nat := kinds.foldr (fun k count => p.mutationsOf k + count) 0

/-- The kinds that did mutate. -/
def mutationsByKind (p : Profile) : List (BindingKind × Nat) :=
  (kinds.map fun k => (k, p.mutationsOf k)).filter (·.2 ≠ 0)

end Profile
end LiveTemplate
