import LiveTemplate.Binding
import LiveTemplate.Expression.Evaluator

/-! Parts: bindings in a live tree. A part evaluates its expression only if a patch could alter it,
and edits its node only if the cast value differs from the one applied last. -/
namespace LiveTemplate

/-- A binding at its node. The value is what was applied last, `unset` until then. -/
structure Part where
  descriptor : Descriptor
  path : Path
  nodeType : NodeType
  evaluator : Evaluator
  value : Value

/-- What a patch does to a part. In all but the first case the expression was evaluated, and what
the evaluator took in it keeps. -/
inductive Reaction where
  | idle
  /-- The expression has no value yet. -/
  | withheld (evaluator : Evaluator)
  /-- The cast value is the one applied last. -/
  | settled (evaluator : Evaluator)
  | wrote (evaluator : Evaluator) (applied : Applied)
  /-- The edit does not fit the node. -/
  | refused (evaluator : Evaluator) (edit : Edit) (error : Error)
  | failed (evaluator : Evaluator) (error : Error)

namespace Part

def ofDescriptor (path : Path) (type : NodeType) (d : Descriptor) : Part :=
  ⟨d, path, type, Evaluator.ofSource d.expression, .unset⟩

def comparison (p : Part) : Comparison := p.descriptor.kind.comparison

def isUnset : Value → Bool
  | .unset => true
  | _ => false

/-- What becomes of a cast value that is to be applied. -/
def write (p : Part) (e : Evaluator) (applied : Applied) : Reaction :=
  if applied.edit.fits p.nodeType then .wrote e applied
  else .refused e applied.edit (.missingMember p.nodeType.name applied.edit.member)

/-- What becomes of a raw value. -/
def settle (shelf : Shelf) (p : Part) (e : Evaluator) (raw : Value) : Reaction :=
  if isUnset raw then .withheld e
  else match p.descriptor.cast shelf raw with
    | .error error => .failed e error
    | .ok applied =>
      if p.comparison.changed shelf applied.value p.value then p.write e applied else .settled e

def react {σ : Type} (host : Host σ) (patch : Patch) (p : Part) (s : σ) : Reaction × σ :=
  if p.evaluator.changed host.shelf p.comparison patch then
    match p.evaluator.get host patch s with
    | (.ok raw, e, s) => (p.settle host.shelf e raw, s)
    | (.error error, e, s) => (.failed e error, s)
  else (.idle, s)

/-- The part after its reaction. -/
def after (p : Part) : Reaction → Part
  | .idle => p
  | .withheld e | .settled e | .refused e _ _ | .failed e _ => { p with evaluator := e }
  | .wrote e applied => { p with evaluator := e, value := applied.value }

def written (shelf : Shelf) (p : Part) : Except Error String :=
  (p.value.written shelf).map fun value =>
    "Part(" ++ p.descriptor.kind.label ++ ", " ++ Text.quoted p.descriptor.expression ++
      ", value=" ++ value ++ ")"

end Part

namespace Reaction

def edit? : Reaction → Option Edit
  | wrote _ applied => some applied.edit
  | _ => none

def error? : Reaction → Option Error
  | refused _ _ error | failed _ error => some error
  | _ => none

end Reaction
end LiveTemplate
