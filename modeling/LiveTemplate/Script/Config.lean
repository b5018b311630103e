import LiveTemplate.Script.Objects
import LiveTemplate.Template.Compile
import LiveTemplate.Template.Instance

/-! Scripts over the active configuration. A block has a configuration of its own and gives the
former one back when it ends, also by an error. -/
namespace LiveTemplate.Script

inductive ConfigStep where
  | get
  | set (settings : Settings)
  | reset
  | render (markup : String) (context : WrittenContext)
  | within (settings : Settings) (steps : List ConfigStep) (abandoned : Bool)

inductive ConfigAnswer where
  | config (config : Config)
  | done
  | html (text : String)
  | failed (error : Error)
  /-- The answers in the block, and the error that ended it. -/
  | block (answers : List ConfigAnswer) (error : Option Error)

structure ConfigState where
  active : Config
  supply : Supply

namespace ConfigState

def start : ConfigState := ⟨.standard, .start⟩

/-- The markup of a new instance. What fails before functions are called leaves the state alone. -/
def render (markup : String) (context : WrittenContext) (st : ConfigState) :
    Except Error String × ConfigState :=
  match make with
  | .error error => (.error error, st)
  | .ok u =>
    let st := { st with supply := u.state }
    match u.error with
    | some error => (.error error, st)
    | none => (.ok u.updated.render, st)
where
  make : Except Error (Update Supply) := do
    let compiled ← Template.compileMarkup st.active markup
    let (patch, objects) ← (⟨[], #[], st.supply⟩ : Objects).evaluateContext context
    Instance.create objects.host compiled.template (some patch) objects.supply

mutual

def step (st : ConfigState) : ConfigStep → ConfigAnswer × ConfigState
  | .get => (.config st.active, st)
  | .set settings => match Config.ofSettings settings with
    | .ok config => (.done, { st with active := config })
    | .error error => (.failed error, st)
  | .reset => (.done, { st with active := .standard })
  | .render markup context => match st.render markup context with
    | (.ok text, st) => (.html text, st)
    | (.error error, st) => (.failed error, st)
  | .within settings steps abandoned => match Config.ofSettings settings with
    | .error error => (.failed error, st)
    | .ok config =>
      let (answers, inner) := run { st with active := config } steps
      (.block answers (if abandoned then some .blockAbandoned else none),
        { inner with active := st.active })

def run (st : ConfigState) : List ConfigStep → List ConfigAnswer × ConfigState
  | [] => ([], st)
  | s :: rest =>
    let (answer, st) := step st s
    let (answers, st) := run st rest
    (answer :: answers, st)

end

end ConfigState

def runConfig (steps : List ConfigStep) : List ConfigAnswer := (ConfigState.start.run steps).1

end LiveTemplate.Script
