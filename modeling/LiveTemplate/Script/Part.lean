import LiveTemplate.Script.Draft
import LiveTemplate.Template.Instance

/-! Scripts over one part that is bound to the root of a tree. -/
namespace LiveTemplate.Script

inductive PartStep where
  | update (context : WrittenContext)
  | append (name : String) (item : Literal)

/-- After an update: whether the node was mutated or the error, the part's value, and the
mutations. -/
inductive PartAnswer where
  | updated (result : Except Error Bool) (value : Shown Value) (mutations : List Mutation)
  | done
  | failed (error : Error)

structure PartState where
  node : Node
  part : Part
  objects : Objects

namespace PartState

def update (context : WrittenContext) (st : PartState) : PartAnswer × PartState :=
  match st.objects.evaluateContext context with
  | .error error => (.updated (.error error) ⟨st.part.value, st.objects.shelf⟩ [], st)
  | .ok (patch, objects) =>
    let (reaction, supply) := st.part.react objects.host patch objects.supply
    let part := st.part.after reaction
    let mutations := mutations (Instance.reactionEvents st.part reaction)
    let result := match reaction.error? with
      | some error => .error error
      | none => .ok !mutations.isEmpty
    (.updated result ⟨part.value, objects.shelf⟩ mutations,
      ⟨Instance.applyReaction st.part reaction st.node, part, { objects with supply := supply }⟩)

def step (st : PartState) : PartStep → PartAnswer × PartState
  | .update context => st.update context
  | .append name item => match st.objects.append name item with
    | .ok objects => (.done, { st with objects := objects })
    | .error error => (.failed error, st)

def run : List PartStep → PartState → List PartAnswer × PartState
  | [], st => ([], st)
  | s :: rest, st =>
    let (answer, st) := st.step s
    let (answers, st) := run rest st
    (answer :: answers, st)

end PartState

structure PartScript where
  descriptor : Descriptor
  node : Draft
  pool : List (String × Literal)
  steps : List PartStep

/-- The answers, and at the end the part in its written form, the tree and the objects. -/
structure PartReport where
  answers : List PartAnswer
  written : String
  final : PartState

def PartScript.run (script : PartScript) : Except Error PartReport := do
  let objects ← Objects.ofPool script.pool
  let (node, objects) ← script.node.toNode objects
  let part := Part.ofDescriptor [] node.type script.descriptor
  let (answers, final) := PartState.run script.steps ⟨node, part, objects⟩
  return ⟨answers, ← final.part.written final.objects.shelf, final⟩

end LiveTemplate.Script
