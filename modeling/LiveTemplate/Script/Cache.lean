import LiveTemplate.Cache
import LiveTemplate.Profile
import LiveTemplate.Script.Objects
import LiveTemplate.Template.Instance

/-! Scripts over one template cache. -/
namespace LiveTemplate.Script

inductive CacheStep where
  | compile (markup : String) (settings : Settings) (cached : Bool)
      (context : Option WrittenContext)
  | lookup (markup : String) (settings : Settings)
  | get (key : CacheKey)
  /-- A number below zero counts from the template made last. -/
  | put (key : CacheKey) (number : Int)
  | clear
  | size

/-- A compiled template: its number, what compiling took, and the markup of an instance. -/
structure CompileAnswer where
  number : Nat
  profile : Profile
  html : Option String

inductive CacheResult where
  | compiled (answer : CompileAnswer)
  | found (number : Option Nat)
  | done
  | failed (error : Error)

/-- A result and how many templates are cached then. -/
structure CacheAnswer where
  result : CacheResult
  size : Nat

structure CacheState where
  workshop : Workshop
  supply : Supply

namespace CacheState

/-- The markup of a fresh instance on a context. -/
def instanceHtml (t : Template) (context : WrittenContext) (st : CacheState) :
    Except Error String × CacheState :=
  match make with
  | .error error => (.error error, st)
  | .ok u =>
    let st := { st with supply := u.state }
    match u.error with
    | some error => (.error error, st)
    | none => (.ok u.updated.render, st)
where
  make : Except Error (Update Supply) := do
    let (patch, objects) ← (⟨[], #[], st.supply⟩ : Objects).evaluateContext context
    Instance.create objects.host t (some patch) objects.supply

/-- The template of that number. -/
def template (number : Nat) (st : CacheState) : Except Error Template :=
  match st.workshop.templates[number]? with
  | some t => .ok t
  | none => .error .unknownNumber

def resolveNumber (number : Int) (st : CacheState) : Except Error Nat :=
  let count := st.workshop.templates.length
  let resolved := if number < 0 then number + count else number
  if 0 ≤ resolved ∧ resolved < count then .ok resolved.toNat else .error .unknownNumber

def compile (markup : String) (config : Config) (cached : Bool) (context : Option WrittenContext)
    (st : CacheState) : CacheResult × CacheState :=
  match st.workshop.compile config markup cached with
  | .error error => (.failed error, st)
  | .ok (delivery, workshop) =>
    let st := { st with workshop := workshop }
    let answer html : CacheResult := .compiled ⟨delivery.number, .ofEvents delivery.events, html⟩
    match context with
    | none => (answer none, st)
    | some context => match st.template delivery.number with
      | .error error => (.failed error, st)
      | .ok t => match st.instanceHtml t context with
        | (.ok html, st) => (answer (some html), st)
        | (.error error, st) => (.failed error, st)

def mapCache (f : Cache Nat → Cache Nat) (st : CacheState) : CacheState :=
  { st with workshop := { st.workshop with cache := f st.workshop.cache } }

/-- A configuration that is not accepted fails its step. -/
def withConfig (settings : Settings) (st : CacheState)
    (f : Config → CacheResult × CacheState) : CacheResult × CacheState :=
  match Config.ofSettings settings with
  | .ok config => f config
  | .error error => (.failed error, st)

def step (st : CacheState) : CacheStep → CacheResult × CacheState
  | .compile markup settings cached context =>
    st.withConfig settings fun config => st.compile markup config cached context
  | .lookup markup settings =>
    st.withConfig settings fun config =>
      (.found (st.workshop.cache.find? (.of config markup)), st)
  | .get key => (.found (st.workshop.cache.find? key), st)
  | .put key number => match st.resolveNumber number with
    | .ok number => (.done, st.mapCache (·.set key number))
    | .error error => (.failed error, st)
  | .clear => (.done, st.mapCache fun _ => [])
  | .size => (.done, st)

def run : List CacheStep → CacheState → List CacheAnswer
  | [], _ => []
  | s :: rest, st =>
    let (result, st) := st.step s
    ⟨result, st.workshop.cache.length⟩ :: run rest st

end CacheState

def runCache (steps : List CacheStep) : List CacheAnswer :=
  CacheState.run steps ⟨.empty, .start⟩

end LiveTemplate.Script
