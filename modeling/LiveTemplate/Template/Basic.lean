import LiveTemplate.Binding

/-! Templates: a tree, and for its walked nodes by number the bindings there. -/
namespace LiveTemplate

/-- Bindings by the index of their node in the walk. -/
abbrev BindingTable := Entries Int (List Descriptor)

structure Template where
  content : Node
  table : BindingTable

namespace BindingTable

/-- In the order of the indices. -/
def sorted (table : BindingTable) : BindingTable := table.mergeSort fun a b => a.1 ≤ b.1

def bindings (table : BindingTable) : List Descriptor := table.flatMap (·.2)

end BindingTable

namespace Template

def partCount (t : Template) : Nat := t.table.bindings.length

def written (t : Template) : String := "Template(parts=" ++ toString t.partCount ++ ")"

end Template
end LiveTemplate
