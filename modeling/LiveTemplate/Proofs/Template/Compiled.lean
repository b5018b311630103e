import LiveTemplate.Proofs.Template.Alignment
import LiveTemplate.Proofs.Template.Seats

/-! What a successful compilation tells. Whatever source it began with, what came out is what the
recursion on the source says, so its parts are counted by the bindings of the source. -/
namespace LiveTemplate

namespace Compile

variable {config : Config}

theorem attributeBinding_eq {p : Placeholder} {name : FieldName} {value : Option String}
    {d : Descriptor} (found : Placeholder.ofAttribute? config value = some p)
    (done : attributeBinding config p name = .ok d) : bindingOf? config (name, value) = some d := by
  cases name with
  | none => cases done
  | some name =>
    rw [← Except.ok.inj done, bindingOf?, found]
    rfl

theorem boundAttributes_eq {attributes : Attributes} {bindings : List Descriptor}
    (done : attributeBindings config attributes = .ok bindings) :
    bindings = boundAttributes config attributes := by
  induction attributes generalizing bindings with
  | nil => cases done; rfl
  | cons a rest ih =>
    obtain ⟨name, value⟩ := a
    cases found : Placeholder.ofAttribute? config value with
    | none =>
      simp only [attributeBindings, found] at done
      have unbound : bindingOf? config (name, value) = none := by
        cases name <;> simp [bindingOf?, found]
      rw [ih done, boundAttributes, boundAttributes, List.filterMap_cons_none unbound]
    | some p =>
      simp only [attributeBindings, found, bind, Except.bind, pure, Except.pure] at done
      split at done
      · cases done
      · next d first =>
        split at done
        · cases done
        · next others later =>
          cases done
          rw [ih later, boundAttributes, boundAttributes,
            List.filterMap_cons_some (attributeBinding_eq found first)]

mutual

/-- The converse of `node_eq`, without a condition on names. -/
theorem eq_of_node {config : Config} {index : Nat} {made : Numbered Node} : (n : Node) →
    n.isText = false → node config index n = .ok made →
      compiled config n = [made.result] ∧ made = numbered index made.result (labels config n)
  | .text _, text, _ => by cases text
  | .element tag attributes properties cs, _, done => by
    simp only [node, bind, Except.bind, pure, Except.pure] at done
    split at done
    · cases done
    · next bindings bound =>
      split at done
      · cases done
      · next below inner =>
        cases done
        obtain ⟨same, numbers⟩ := eq_of_nodes cs inner
        rw [boundAttributes_eq bound] at *
        refine ⟨by rw [compiled, same], ?_⟩
        rw [numbers]
        simp only [numbered, labels, number, List.length_cons]
        rw [Nat.add_assoc, Nat.add_comm 1]
  | .fragment cs, _, done => by
    simp only [node, bind, Except.bind, pure, Except.pure] at done
    split at done
    · cases done
    · next below inner =>
      cases done
      obtain ⟨same, numbers⟩ := eq_of_nodes cs inner
      exact ⟨by rw [compiled, same], by rw [numbers]; rfl⟩
  | .comment _, _, done | .bare, _, done | .bareParent _, _, done => by
    cases done
    exact ⟨rfl, rfl⟩

theorem eq_of_nodes {config : Config} {index : Nat} {made : Numbered (List Node)} :
    (ns : List Node) → nodes config index ns = .ok made →
      compiledAll config ns = made.result ∧
        made = numbered index made.result (labelsOf config ns)
  | [], done => by cases done; exact ⟨rfl, rfl⟩
  | n :: rest, done => by
    cases kind : n.isText with
    | true =>
      cases n with
      | text data =>
        simp only [nodes, text_eq, bind, Except.bind, pure, Except.pure] at done
        split at done
        · cases done
        · next later behind =>
          cases done
          obtain ⟨same, numbers⟩ := eq_of_nodes rest behind
          refine ⟨by rw [compiledAll, same]; rfl, ?_⟩
          rw [numbers]
          simp only [numbered, labelsOf, number_append, List.length_append, Nat.add_assoc]
      | _ => cases kind
    | false =>
      have step : nodes config index (n :: rest) = (do
          let first ← node config index n
          let later ← nodes config first.next rest
          return ⟨first.result :: later.result, first.table ++ later.table, later.next⟩) := by
        cases n <;> first | rfl | cases kind
      simp only [step, bind, Except.bind, pure, Except.pure] at done
      split at done
      · cases done
      · next first here =>
        split at done
        · cases done
        · next later behind =>
          cases done
          obtain ⟨single, firsts⟩ := eq_of_node n kind here
          obtain ⟨same, numbers⟩ := eq_of_nodes rest behind
          refine ⟨by rw [compiledAll, single, same, List.singleton_append], ?_⟩
          rw [numbers, firsts]
          simp only [numbered, labelsOf, number_append, List.length_append, Nat.add_assoc]

end

end Compile

namespace Template

variable {config : Config} {source : Node} {made : Compiled}

/-- Whatever compiles, compiles as the recursion on the source says. -/
theorem outcome_of_compile (done : Template.compile config source = .ok made) :
    Outcome config source made := by
  unfold Template.compile at done
  cases root : source.isRoot with
  | false => simp [root] at done
  | true =>
    cases clonable : source.isClonable with
    | false => simp [root, Node.clone, clonable, bind, Except.bind] at done
    | true =>
      have kind : source.isText = false := by
        cases source <;> first | rfl | cases root
      simp only [root, if_true, Node.clone, clonable, bind, Except.bind, pure, Except.pure] at done
      split at done
      · cases done
      · next compiled inner =>
        cases done
        obtain ⟨single, numbers⟩ := Compile.eq_of_node source kind inner
        have kept := Compile.areClonable_compiled config source
        rw [single, clonable] at kept
        refine ⟨single, ?_, ?_, by simpa [Node.areClonable] using kept⟩
        · exact congrArg Compile.Numbered.table numbers
        · exact (congrArg Compile.Numbered.next numbers).trans (Nat.zero_add _)

/-- What a compilation yields. -/
def IsCompiled (t : Template) : Prop :=
  ∃ config source made, Template.compile config source = .ok made ∧ made.template = t

/-- A compiled template has the bindings of its source. -/
theorem Outcome.partCount (outcome : Outcome config source made) :
    made.template.partCount = (source.bindings config).length := by
  rw [Template.partCount, outcome.table, Compile.bindings_number, Compile.flatten_labels]

/-- Its instances have as many parts. -/
theorem Outcome.length_parts (outcome : Outcome config source made) {fresh : Instance}
    (start : Instance.ofTemplate made.template = .ok fresh) :
    fresh.parts.length = made.template.partCount := by
  cases (Instance.ofTemplate_eq outcome).symm.trans start
  have parts := Instance.map_descriptor_ofLabels outcome.length_spots
  rw [outcome.partCount, ← Compile.flatten_labels, ← parts, List.length_map]

end Template
end LiveTemplate
