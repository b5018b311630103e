import LiveTemplate.Event
import LiveTemplate.Markup.Render
import LiveTemplate.Part
import LiveTemplate.Template.Basic

/-! Instances: a copy of a template's tree with live parts. An update goes through the parts in the
order of the walk and stops at the first that fails; what came before it stays. -/
namespace LiveTemplate

structure Instance where
  content : Node
  parts : List Part

/-- The outcome of an update: the instance and the host's state afterwards, what happened, and the
error that stopped it. -/
structure Update (σ : Type) where
  updated : Instance
  events : List Event
  error : Option Error
  state : σ

namespace Instance

/-- The parts at the walked nodes, which are numbered from `index` on. -/
def bind (table : BindingTable) : (index : Nat) → List (Path × Node) → List Part
  | _, [] => []
  | index, (path, n) :: rest =>
    ((table.find? (index : Int)).getD []).map (Part.ofDescriptor path n.type) ++
      bind table (index + 1) rest

def ofTemplate (t : Template) : Except Error Instance := do
  let content ← t.content.clone
  return ⟨content, bind t.table 0 content.spots⟩

/-- A reaction leaves an evaluation behind, and after it perhaps an edit. -/
def reactionEvents (p : Part) : Reaction → List Event
  | .idle => []
  | .withheld _ | .settled _ | .failed _ _ => [.evaluated]
  | .wrote _ applied => [.evaluated, .mutated p.descriptor.kind p.path applied.edit]
  | .refused _ edit _ => [.evaluated, .refused p.path edit]

def applyReaction (p : Part) (r : Reaction) (content : Node) : Node :=
  match r.edit? with
  | some edit => content.editAt p.path edit
  | none => content

/-- The remaining parts of an update, on the tree and the state that the parts before them left. -/
def updateParts {σ : Type} (host : Host σ) (patch : Patch) (content : Node) (s : σ) :
    List Part → Update σ
  | [] => ⟨⟨content, []⟩, [], none, s⟩
  | p :: rest =>
    let (reaction, s) := p.react host patch s
    let events := reactionEvents p reaction
    let content := applyReaction p reaction content
    match reaction.error? with
    | some error => ⟨⟨content, p.after reaction :: rest⟩, events, some error, s⟩
    | none =>
      let later := updateParts host patch content s rest
      ⟨⟨later.updated.content, p.after reaction :: later.updated.parts⟩, events ++ later.events,
        later.error, later.state⟩

def update {σ : Type} (host : Host σ) (patch : Patch) (i : Instance) (s : σ) : Update σ :=
  updateParts host patch i.content s i.parts

/-- Several patches one after the other, as long as none fails. -/
def updateAll {σ : Type} (host : Host σ) : List Patch → Instance → σ → Update σ
  | [], i, s => ⟨i, [], none, s⟩
  | patch :: rest, i, s =>
    let first := i.update host patch s
    match first.error with
    | some _ => first
    | none =>
      let later := updateAll host rest first.updated first.state
      { later with events := first.events ++ later.events }

/-- Values given by name are set over those of the context; with neither there is no patch. -/
def patchOf? (context : Option Patch) (values : Patch) : Option Patch :=
  if values.isEmpty then context else some ((context.getD []).overlay values)

/-- A new instance of a template, updated once if there is a context. -/
def create {σ : Type} (host : Host σ) (t : Template) (context : Option Patch) (s : σ) :
    Except Error (Update σ) := do
  let fresh ← ofTemplate t
  let created := Event.instantiated fresh.parts.length
  match context with
  | none => return ⟨fresh, [created], none, s⟩
  | some patch =>
    let first := fresh.update host patch s
    return { first with events := created :: first.events }

def render (i : Instance) : String := Markup.render i.content

def written (i : Instance) : String :=
  "TemplateInstance(parts=" ++ toString i.parts.length ++ ")"

end Instance
end LiveTemplate
