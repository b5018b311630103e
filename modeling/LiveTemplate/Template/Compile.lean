import LiveTemplate.Event
import LiveTemplate.Markup.Tree
import LiveTemplate.Placeholder
import LiveTemplate.Template.Basic
import LiveTemplate.Text.Cut

/-! Compiling: text is cut so that every placeholder has an empty text of its own, attributes that
hold a placeholder are taken away, and the walked nodes of the result are numbered on the
way. Empty texts between placeholders are left out and get no number. -/
namespace LiveTemplate

namespace Compile

/-- A compiled piece of a tree, its bindings, and the next free number. -/
structure Numbered (α : Type) where
  result : α
  table : BindingTable
  next : Nat

/-- Static text keeps its node and takes a number, unless it is empty. -/
def staticText (data : List Char) (index : Nat) : List Node × Nat :=
  if data.isEmpty then ([], index) else ([.text (String.ofList data)], index + 1)

def textDescriptor (p : Placeholder) : Descriptor := ⟨.text, p.expression, none⟩

/-- A text as its pieces. What is left of it, `current`, begins at the offset `consumed` of the
whole, and the placeholders lie in it. -/
def cutText (index consumed : Nat) (current : List Char) :
    List Placeholder → Except Error (Numbered (List Node))
  | [] =>
    let (nodes, next) := staticText current index
    .ok ⟨nodes, [], next⟩
  | p :: rest => do
    let (head, span) ← Text.cut current ((p.start : Int) - consumed)
    let (nodes, bound) := staticText head index
    let (_, tail) ← Text.cut span p.length
    let later ← cutText (bound + 1) p.stop tail rest
    return ⟨nodes ++ .text "" :: later.result,
      ((bound : Int), [textDescriptor p]) :: later.table, later.next⟩

def text (config : Config) (index : Nat) (data : String) : Except Error (Numbered (List Node)) :=
  cutText index 0 data.toList (Placeholder.all config data)

/-- An attribute is bound if its value holds a placeholder. -/
def isBound (config : Config) : FieldName × Option String → Bool
  | (_, value) => (Placeholder.ofAttribute? config value).isSome

/-- The binding of an attribute whose value holds a placeholder. Without a name there is nothing to
tell its kind by. -/
def attributeBinding (config : Config) (p : Placeholder) : FieldName → Except Error Descriptor
  | some name =>
    let (kind, target) := BindingKind.ofAttribute config name
    .ok ⟨kind, p.expression, some target⟩
  | none => .error (.missingMember Value.null.typeName "startswith")

def attributeBindings (config : Config) : Attributes → Except Error (List Descriptor)
  | [] => .ok []
  | (name, value) :: rest => do
    match Placeholder.ofAttribute? config value with
    | some p =>
      let first ← attributeBinding config p name
      return first :: (← attributeBindings config rest)
    | none => attributeBindings config rest

def staticAttributes (config : Config) (attributes : Attributes) : Attributes :=
  attributes.filter (!isBound config ·)

/-- A node without bindings has no entry. -/
def entry (index : Nat) (bindings : List Descriptor) : BindingTable :=
  if bindings.isEmpty then [] else [((index : Int), bindings)]

mutual

/-- A node other than a text; texts are compiled with their siblings, as one may become several. -/
def node (config : Config) (index : Nat) : Node → Except Error (Numbered Node)
  | .element tag attributes properties children => do
    let bindings ← attributeBindings config attributes
    let below ← nodes config (index + 1) children
    return ⟨.element tag (staticAttributes config attributes) properties below.result,
      entry index bindings ++ below.table, below.next⟩
  | .fragment children => do
    let below ← nodes config index children
    return ⟨.fragment below.result, below.table, below.next⟩
  | other => .ok ⟨other, [], index⟩

def nodes (config : Config) (index : Nat) : List Node → Except Error (Numbered (List Node))
  | [] => .ok ⟨[], [], index⟩
  | .text data :: rest => do
    let first ← text config index data
    let later ← nodes config first.next rest
    return ⟨first.result ++ later.result, first.table ++ later.table, later.next⟩
  | n :: rest => do
    let first ← node config index n
    let later ← nodes config first.next rest
    return ⟨first.result :: later.result, first.table ++ later.table, later.next⟩

end

end Compile

namespace Template

/-- A compiled template and how many nodes of its content are numbered. -/
structure Compiled where
  template : Template
  nodeCount : Nat

/-- The source is checked to be a root before it is copied. -/
def compile (config : Config) (source : Node) : Except Error Compiled := do
  if source.isRoot then
    let content ← source.clone
    let compiled ← Compile.node config 0 content
    return ⟨⟨compiled.result, compiled.table⟩, compiled.next⟩
  else throw (.notARoot source.type.name)

def compileMarkup (config : Config) (markup : String) : Except Error Compiled := do
  compile config (← Markup.parse config.strict true markup)

def Compiled.event (c : Compiled) : Event := .compiled c.nodeCount c.template.partCount

end Template
end LiveTemplate
