import LiveTemplate.Script.Objects

/-! Scripts over one evaluator: it is asked whether a patch changes anything and made to take
patches in. -/
namespace LiveTemplate.Script

/-- How an evaluator is made. -/
inductive ExpressionForm where
  | source (text : String)
  | key (name : String)
  /-- A call without a source is given its canonical one. -/
  | call (function : String) (parameters : List String) (source : Option String)

def ExpressionForm.evaluator : ExpressionForm → Evaluator
  | .source text => .ofSource text
  | .key name => .ofKey name
  | .call function parameters given =>
    .ofCall (given.getD (Expression.Source.canonicalCall function parameters)) function parameters

inductive ExpressionStep where
  | changed (context : WrittenContext)
  | get (context : WrittenContext)
  | append (name : String) (item : Literal)

inductive ExpressionAnswer where
  | changed (answer : Bool)
  | got (value : Shown Value)
  | done
  | failed (error : Error)

structure ExpressionState where
  evaluator : Evaluator
  objects : Objects

namespace ExpressionState

def changed (how : Comparison) (context : WrittenContext) (st : ExpressionState) :
    Except Error (ExpressionAnswer × ExpressionState) := do
  let (patch, objects) ← st.objects.evaluateContext context
  return (.changed (st.evaluator.changed objects.shelf how patch), { st with objects := objects })

/-- What the evaluator took in it keeps, also if it has no value then. -/
def get (context : WrittenContext) (st : ExpressionState) :
    Except Error (ExpressionAnswer × ExpressionState) := do
  let (patch, objects) ← st.objects.evaluateContext context
  let (result, evaluator, supply) := st.evaluator.get objects.host patch objects.supply
  let answer := match result with
    | .ok v => .got ⟨v, objects.shelf⟩
    | .error error => .failed error
  return (answer, ⟨evaluator, { objects with supply := supply }⟩)

def append (name : String) (item : Literal) (st : ExpressionState) :
    Except Error (ExpressionAnswer × ExpressionState) := do
  return (.done, { st with objects := ← st.objects.append name item })

/-- A step that fails is answered by its error and leaves the state alone. -/
def step (how : Comparison) (st : ExpressionState) (s : ExpressionStep) :
    ExpressionAnswer × ExpressionState :=
  let taken := match s with
    | .changed context => st.changed how context
    | .get context => st.get context
    | .append name item => st.append name item
  match taken with
  | .ok taken => taken
  | .error error => (.failed error, st)

def run (how : Comparison) : List ExpressionStep → ExpressionState → List ExpressionAnswer
  | [], _ => []
  | s :: rest, st =>
    let (answer, st) := st.step how s
    answer :: run how rest st

end ExpressionState

structure ExpressionScript where
  form : ExpressionForm
  comparison : Comparison
  pool : List (String × Literal)
  steps : List ExpressionStep

structure ExpressionReport where
  evaluator : Evaluator
  answers : List ExpressionAnswer
  pool : Pool

def ExpressionScript.run (script : ExpressionScript) : Except Error ExpressionReport := do
  let objects ← Objects.ofPool script.pool
  let evaluator := script.form.evaluator
  let answers := ExpressionState.run script.comparison script.steps ⟨evaluator, objects⟩
  return ⟨evaluator, answers, objects.pool⟩

end LiveTemplate.Script
