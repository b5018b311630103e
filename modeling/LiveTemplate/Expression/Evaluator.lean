import LiveTemplate.Entries
import LiveTemplate.Expression.Source
import LiveTemplate.Function.Host
import LiveTemplate.Value.Display
import LiveTemplate.Value.Equality

/-! Evaluators remember what they last saw, so that a patch has to carry only what moved. A patch
that omits an evaluator's keys, or repeats what it has seen, changes nothing for it. -/
namespace LiveTemplate

/-- The entries of a context that are given at one time. -/
abbrev Patch := Entries String Value

inductive Evaluator where
  /-- The last value under one key, `unset` before the first. -/
  | lookup (key : String) (last : Value)
  /-- A function that a key names, `unset` until it is given, and for each parameter the last
  value under its key, `null` until it is given. -/
  | call (source function : String) (parameters : List (String × Value)) (callee : Value)

namespace Evaluator

def ofKey (key : String) : Evaluator := lookup key .unset

def ofCall (source function : String) (parameters : List String) : Evaluator :=
  call source function (parameters.map fun p => (p, .null)) .unset

/-- The evaluator of an expression; it keeps the source without the blanks around it. -/
def ofSource (text : String) : Evaluator :=
  match Expression.Source.parse text with
  | .key name => ofKey name
  | .call function parameters =>
    ofCall (String.ofList (Text.trim text.toList)) function parameters

/-- The keys that can matter to the evaluator. -/
def keys : Evaluator → List String
  | lookup key _ => [key]
  | call _ function parameters _ => function :: parameters.map (·.1)

def written : Evaluator → String
  | lookup key _ => "StaticExpression(" ++ Text.quoted key ++ ")"
  | call source _ _ _ => "DynamicExpression(" ++ Text.quoted source ++ ")"

/-- Whether the patch gives a value under `key` that `counts` as a change from the last one. -/
def moves (counts : Value → Value → Bool) (patch : Patch) (key : String) (last : Value) : Bool :=
  match patch.find? key with
  | some value => counts value last
  | none => false

/-- Whether the patch carries anything that could alter the value. A callee is compared by value
whatever `how` says. -/
def changed (shelf : Shelf) (how : Comparison) (patch : Patch) : Evaluator → Bool
  | lookup key last => moves (how.changed shelf) patch key last
  | call _ function parameters callee =>
    parameters.any (fun (key, last) => moves (how.changed shelf) patch key last) ||
      moves (Value.differs shelf) patch function callee

def absorbParameter (patch : Patch) : String × Value → String × Value
  | (key, last) => (key, (patch.find? key).getD last)

/-- The evaluator with the patch taken in. A callee that cannot be called is rejected with the
whole patch; a key that the patch omits is looked up as `null`. -/
def absorb (patch : Patch) : Evaluator → Except Error Evaluator
  | lookup key _ => .ok (lookup key ((patch.find? key).getD .null))
  | call source function parameters callee =>
    match (patch.find? function).getD callee with
    | .unset => .ok (call source function (parameters.map (absorbParameter patch)) .unset)
    | .function name =>
      .ok (call source function (parameters.map (absorbParameter patch)) (.function name))
    | other => .error (.notCallable source function other.typeName)

/-- The value of what has been taken in; a call without a callee has none. -/
def value {σ : Type} (host : Host σ) : Evaluator → σ → Except Error Value × σ
  | lookup _ last, s => (.ok last, s)
  | call _ _ parameters (.function name), s => host.call name (parameters.map (·.2)) s
  | call _ _ _ _, s => (.ok .unset, s)

/-- Taking in a patch and evaluating: the result, the evaluator afterwards, and the host's state.
What was taken in stays so when the call fails. -/
def get {σ : Type} (host : Host σ) (patch : Patch) (e : Evaluator) (s : σ) :
    Except Error Value × Evaluator × σ :=
  match e.absorb patch with
  | .error error => (.error error, e, s)
  | .ok e =>
    let (result, s) := e.value host s
    (result, e, s)

end Evaluator
end LiveTemplate
