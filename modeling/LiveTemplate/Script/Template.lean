import LiveTemplate.Profile
import LiveTemplate.Script.Draft
import LiveTemplate.Template.Compile
import LiveTemplate.Template.Instance

/-! Scripts over one template and its instances, which are known by name. -/
namespace LiveTemplate.Script

/-- What a template is made of. -/
inductive TemplateSource where
  | markup (text : String) (unwrap : Bool)
  | tree (draft : Draft)
  /-- A value that is no tree. -/
  | value (l : Literal)
  /-- A tree that is taken as compiled, with a table of bindings given. -/
  | given (draft : Draft) (table : List (Int × List Descriptor))

inductive TemplateStep where
  | create (on : String) (context : Option WrittenContext)
  | update (on : String) (context : Option WrittenContext) (values : WrittenContext)
  | state (on : String)
  | template
  | append (name : String) (item : Literal)
  | profile (steps : List TemplateStep)
  | within (settings : Settings) (steps : List TemplateStep)
  | recompile (on : String)
  | logs

/-- A template's content and how many parts it has. -/
structure TemplateView where
  content : Node
  partCount : Nat

/-- An instance, and its parts in their written forms. -/
structure InstanceView where
  content : Node
  parts : List (Part × String)

inductive TemplateAnswer where
  | done
  | failed (error : Error)
  /-- The new instance as it is shown or the error, and the markup of the one now so named. -/
  | created (result : Except Error String) (mutations : Shown (List Mutation))
      (html : Option String)
  | updated (error : Option Error) (mutations : Shown (List Mutation)) (html : String)
  | state (view : Shown InstanceView)
  | template (view : Shown TemplateView)
  | profiled (profile : Profile) (answers : List TemplateAnswer)
  | nested (answers : List TemplateAnswer)
  | logs (records : List LogRecord)

/-- A script in progress. The events `logged` are those since the log was last shown, and `profiled`
those of the innermost profiled block. -/
structure TemplateState where
  template : Template
  instances : Entries String Instance
  config : Config
  objects : Objects
  logged : List Event
  profiled : List Event

namespace TemplateState

def record (events : List Event) (st : TemplateState) : TemplateState :=
  { st with logged := st.logged ++ events, profiled := st.profiled ++ events }

def shown {α : Type} (subject : α) (st : TemplateState) : Shown α := ⟨subject, st.objects.shelf⟩

/-- The markup of the instance of that name, if there is one. -/
def html? (on : String) (st : TemplateState) : Option String :=
  (st.instances.find? on).map Instance.render

/-- A failed creation, with what happened before it failed. -/
def notCreated (on : String) (error : Error) (events : List Event) (st : TemplateState) :
    TemplateAnswer × TemplateState :=
  (.created (.error error) (st.shown (mutations events)) (st.html? on), st.record events)

/-- An instance whose first update fails is not kept. -/
def create (on : String) (context : Option WrittenContext) (st : TemplateState) :
    TemplateAnswer × TemplateState :=
  match st.objects.evaluateContext? context with
  | .error error => st.notCreated on error []
  | .ok (patch, objects) =>
    match Instance.create objects.host st.template patch objects.supply with
    | .error error => { st with objects := objects }.notCreated on error []
    | .ok u =>
      let st := { st with objects := { objects with supply := u.state } }
      match u.error with
      | some error => st.notCreated on error u.events
      | none =>
        let st := { st with instances := st.instances.set on u.updated }.record u.events
        (.created (.ok u.updated.written) (st.shown (mutations u.events)) (st.html? on), st)

/-- The patch of a context and of values by name, and the objects it was made with. -/
def patch? (context : Option WrittenContext) (values : WrittenContext) (o : Objects) :
    Except Error (Option Patch × Objects) := do
  let (context, o) ← o.evaluateContext? context
  let (values, o) ← o.evaluateContext values
  return (Instance.patchOf? context values, o)

def updateInstance (on : String) (i : Instance) (context : Option WrittenContext)
    (values : WrittenContext) (st : TemplateState) : TemplateAnswer × TemplateState :=
  match patch? context values st.objects with
  | .error error => (.updated (some error) (st.shown []) i.render, st)
  | .ok (none, objects) =>
    (.updated none (st.shown []) i.render, { st with objects := objects })
  | .ok (some patch, objects) =>
    let u := i.update objects.host patch objects.supply
    let st := { st with
      objects := { objects with supply := u.state }
      instances := st.instances.set on u.updated }
    (.updated u.error (st.shown (mutations u.events)) u.updated.render, st.record u.events)

def view (i : Instance) (st : TemplateState) : Except Error InstanceView := do
  let parts ← i.parts.mapM fun p => return (p, ← p.written st.objects.shelf)
  return ⟨i.content, parts⟩

def viewInstance (i : Instance) (st : TemplateState) : TemplateAnswer :=
  match st.view i with
  | .ok view => .state (st.shown view)
  | .error error => .failed error

def viewTemplate (t : Template) (st : TemplateState) : TemplateAnswer :=
  .template (st.shown ⟨t.content, t.partCount⟩)

def recompile (i : Instance) (st : TemplateState) : TemplateAnswer × TemplateState :=
  match Template.compile st.config i.content with
  | .ok compiled => (st.viewTemplate compiled.template, st.record [compiled.event])
  | .error error => (.failed error, st)

def append (name : String) (item : Literal) (st : TemplateState) :
    TemplateAnswer × TemplateState :=
  match st.objects.append name item with
  | .ok objects => (.done, { st with objects := objects })
  | .error error => (.failed error, st)

/-- A step on a named instance. -/
def onInstance (on : String) (st : TemplateState)
    (f : Instance → TemplateAnswer × TemplateState) : TemplateAnswer × TemplateState :=
  match st.instances.find? on with
  | some i => f i
  | none => (.failed (.unknownName on), st)

mutual

def step (st : TemplateState) : TemplateStep → TemplateAnswer × TemplateState
  | .create on context => st.create on context
  | .update on context values => st.onInstance on fun i => st.updateInstance on i context values
  | .state on => st.onInstance on fun i => (st.viewInstance i, st)
  | .template => (st.viewTemplate st.template, st)
  | .append name item => st.append name item
  | .profile steps =>
    let (answers, inner) := run { st with profiled := [] } steps
    (.profiled (.ofEvents inner.profiled) answers, { inner with profiled := st.profiled })
  | .within settings steps => match Config.ofSettings settings with
    | .ok config =>
      let (answers, inner) := run { st with config := config } steps
      (.nested answers, { inner with config := st.config })
    | .error error => (.failed error, st)
  | .recompile on => st.onInstance on fun i => st.recompile i
  | .logs => (.logs (logRecords st.logged), { st with logged := [] })

def run (st : TemplateState) : List TemplateStep → List TemplateAnswer × TemplateState
  | [] => ([], st)
  | s :: rest =>
    let (answer, st) := step st s
    let (answers, st) := run st rest
    (answer :: answers, st)

end

end TemplateState

structure TemplateScript where
  source : TemplateSource
  settings : Settings
  pool : List (String × Literal)
  steps : List TemplateStep

/-- The template as made, what was recorded while it was made, and the answers of the steps. -/
structure TemplateReport where
  template : Shown Template
  /-- Whether there was a source that compiling could have changed. -/
  compiled : Bool
  events : List Event
  answers : List TemplateAnswer
  pool : Pool

namespace TemplateScript

/-- The template, the events of compiling it, and the objects afterwards. -/
def make (source : TemplateSource) (config : Config) (o : Objects) :
    Except Error (Template × List Event × Objects) :=
  match source with
  | .markup text unwrap => do
    let compiled ← Template.compile config (← Markup.parse config.strict unwrap text)
    return (compiled.template, [compiled.event], o)
  | .tree draft => do
    let (node, o) ← draft.toNode o
    let compiled ← Template.compile config node
    return (compiled.template, [compiled.event], o)
  | .value l => do
    let (v, _) ← o.evaluate l
    throw (.notARoot v.typeName)
  | .given draft table => do
    let (node, o) ← draft.toNode o
    return (⟨node, Entries.ofList table⟩, [], o)

/-- The configuration holds while the template is made; the steps begin with the standard one. -/
def run (script : TemplateScript) : Except Error TemplateReport := do
  let objects ← Objects.ofPool script.pool
  let config ← Config.ofSettings script.settings
  let (template, events, objects) ← make script.source config objects
  let (answers, _) := TemplateState.run ⟨template, [], .standard, objects, [], []⟩ script.steps
  let compiled := match script.source with
    | .given .. => false
    | _ => true
  return ⟨⟨template, objects.shelf⟩, compiled, events, answers, objects.pool⟩

end TemplateScript
end LiveTemplate.Script
