import LiveTemplate.Config
import LiveTemplate.Node.Edit
import LiveTemplate.Text.Blank
import LiveTemplate.Value.Display
import LiveTemplate.Value.Equality

/-! Bindings: what a part does to its node. The mark at the beginning of an attribute's name tells
the kind, and the kind tells how a raw value is cast and which edit applies it. -/
namespace LiveTemplate

inductive BindingKind where
  | text
  | attributeValue
  | property
  | booleanAttribute
  /-- A kind that nothing is known about. -/
  | other (name : String)
  deriving DecidableEq, Repr

namespace BindingKind

def name : BindingKind → String
  | text => "text"
  | attributeValue => "attribute"
  | property => "property"
  | booleanAttribute => "boolean-attribute"
  | other name => name

def ofName : String → BindingKind
  | "text" => text
  | "attribute" => attributeValue
  | "property" => property
  | "boolean-attribute" => booleanAttribute
  | name => other name

/-- The kind as it is shown with a part. -/
def label : BindingKind → String
  | text => "TEXT"
  | attributeValue => "ATTRIBUTE"
  | property => "PROPERTY"
  | booleanAttribute => "BOOLEAN_ATTRIBUTE"
  | other name => name

/-- Properties follow the very object, all else its value. -/
def comparison : BindingKind → Comparison
  | property => .byIdentity
  | _ => .byValue

/-- The kind and target of a bound attribute. The boolean mark is tried before the property mark,
and a name with neither is its own target. -/
def ofAttribute (config : Config) (name : String) : BindingKind × String :=
  match Text.stripHead? config.booleanMark.toList name.toList with
  | some target => (booleanAttribute, String.ofList target)
  | none => match Text.stripHead? config.propertyMark.toList name.toList with
    | some target => (property, String.ofList target)
    | none => (attributeValue, name)

end BindingKind

/-- A value in the form a binding keeps and compares, and the edit that applies it. -/
structure Applied where
  value : Value
  edit : Edit

/-- One binding as compiled. Text bindings need no name. -/
structure Descriptor where
  kind : BindingKind
  expression : String
  name : FieldName
  deriving DecidableEq, Repr

namespace Descriptor

def attributeName (d : Descriptor) : FieldName :=
  match d.kind with
  | .attributeValue | .booleanAttribute => d.name
  | _ => none

def propertyName (d : Descriptor) : FieldName :=
  match d.kind with
  | .property => d.name
  | _ => none

/-- A true value as text, a false one as no text. -/
def castText (shelf : Shelf) (v : Value) : Except Error String :=
  match v.truth? shelf with
  | some true => v.display shelf
  | some false => .ok ""
  | none => .error .noTruthValue

def castFlag (shelf : Shelf) (v : Value) : Except Error Bool :=
  match v.truth? shelf with
  | some b => .ok b
  | none => .error .noTruthValue

/-- A property takes the object itself; a kind that is not known takes nothing. -/
def cast (shelf : Shelf) (d : Descriptor) (v : Value) : Except Error Applied :=
  match d.kind with
  | .text => (castText shelf v).map fun s => ⟨.str s, .setText s⟩
  | .attributeValue => (castText shelf v).map fun s => ⟨.str s, .setAttribute d.name s⟩
  | .booleanAttribute => (castFlag shelf v).map fun b => ⟨.bool b, .toggleAttribute d.name b⟩
  | .property => .ok ⟨v, .setProperty d.name v⟩
  | .other name => .error (.unimplementedKind name)

end Descriptor
end LiveTemplate
