import LiveTemplate.Markup.Render
import LiveTemplate.Proofs.Node.Edit

/-! Properties are not shown. Trees that are the same but for their properties have one markup, and
they stay so under edits that are the same but for the properties that they set. -/
namespace LiveTemplate

namespace Node

mutual

def withoutProperties : Node → Node
  | element tag attributes _ cs => element tag attributes [] (withoutPropertiesOf cs)
  | fragment cs => fragment (withoutPropertiesOf cs)
  | bareParent cs => bareParent (withoutPropertiesOf cs)
  | n => n

def withoutPropertiesOf : List Node → List Node
  | [] => []
  | n :: rest => withoutProperties n :: withoutPropertiesOf rest

end

mutual

theorem renderNode_withoutProperties (raw : Bool) :
    (n : Node) → Markup.renderNode raw n.withoutProperties = Markup.renderNode raw n
  | text _ | comment _ | bare | bareParent _ => rfl
  | element tag attributes properties cs => by
    simp only [withoutProperties, Markup.renderNode,
      renderNodes_withoutProperties (Markup.isRawText tag) cs]
  | fragment cs => renderNodes_withoutProperties raw cs

theorem renderNodes_withoutProperties (raw : Bool) :
    (ns : List Node) → Markup.renderNodes raw (withoutPropertiesOf ns) = Markup.renderNodes raw ns
  | [] => rfl
  | n :: rest => by
    rw [withoutPropertiesOf, Markup.renderNodes, Markup.renderNodes,
      renderNode_withoutProperties raw n, renderNodes_withoutProperties raw rest]

end

theorem render_withoutProperties (n : Node) : Markup.render n.withoutProperties = Markup.render n :=
  congrArg String.ofList (renderNode_withoutProperties false n)

theorem withoutPropertiesOf_modify {f g : Node → Node}
    (step : ∀ n, (f n).withoutProperties = g n.withoutProperties) (index : Nat) (cs : List Node) :
    withoutPropertiesOf (cs.modify index f) = (withoutPropertiesOf cs).modify index g := by
  induction cs generalizing index with
  | nil => cases index <;> rfl
  | cons c rest ih =>
    cases index with
    | zero => exact congrArg (· :: _) (step c)
    | succ index => exact congrArg (_ :: ·) (ih index)

/-- A change of one node that does the same to all but properties does so to the tree. -/
theorem withoutProperties_modifyAt {f g : Node → Node}
    (step : ∀ n, (f n).withoutProperties = g n.withoutProperties) (path : Path) (n : Node) :
    (modifyAt f path n).withoutProperties = modifyAt g path n.withoutProperties := by
  induction path generalizing n with
  | nil => exact step n
  | cons index path ih =>
    cases n with
    | text _ | comment _ | bare => rfl
    | element tag attributes properties cs =>
      exact congrArg (element tag attributes []) (withoutPropertiesOf_modify ih index cs)
    | fragment cs => exact congrArg fragment (withoutPropertiesOf_modify ih index cs)
    | bareParent cs => exact congrArg bareParent (withoutPropertiesOf_modify ih index cs)

end Node

/-- The edit, unless it sets a property. -/
def Edit.visible? : Edit → Option Edit
  | setProperty _ _ => none
  | e => some e

namespace Node

theorem modifyAt_id (path : Path) (n : Node) : modifyAt id path n = n := by
  induction path generalizing n with
  | nil => rfl
  | cons index path ih =>
    have same : modifyAt id path = id := funext ih
    cases n <;> simp [modifyAt, mapChildren, same]

/-- What is left of an edit without properties is what is visible of it. -/
theorem withoutProperties_editAt (path : Path) (e : Edit) (n : Node) :
    (n.editAt path e).withoutProperties =
      modifyAt (e.visible?.elim id Edit.apply) path n.withoutProperties := by
  refine withoutProperties_modifyAt (fun n => ?_) path n
  cases e <;> cases n <;> rfl

/-- Edits of which the same is visible leave the same but for properties. -/
theorem withoutProperties_editAll {applied others : Option Edit} {n m : Node} (path : Path)
    (visible : applied.bind Edit.visible? = others.bind Edit.visible?)
    (same : n.withoutProperties = m.withoutProperties) :
    (n.editAll (applied.toList.map (Prod.mk path))).withoutProperties =
      (m.editAll (others.toList.map (Prod.mk path))).withoutProperties := by
  have own (applied : Option Edit) (n : Node) :
      (n.editAll (applied.toList.map (Prod.mk path))).withoutProperties =
        modifyAt ((applied.bind Edit.visible?).elim id Edit.apply) path n.withoutProperties := by
    cases applied with
    | none => exact (modifyAt_id path _).symm
    | some e => exact withoutProperties_editAt path e n
  rw [own, own, visible, same]

end Node
end LiveTemplate
