import LiveTemplate.Node.Edit
import LiveTemplate.Proofs.Node.Walk

/-! What an edit reaches. It changes one field of the node at its path, and by what it leaves there
alone; no other field, no other node and not the shape of the tree. -/
namespace LiveTemplate

/-- What an edit can change in a node: its characters, or one attribute or property. -/
inductive Field where
  | text
  | attributeNamed (name : FieldName)
  | propertyNamed (name : FieldName)
  deriving DecidableEq

/-- What a field holds. An attribute may be present without a value. -/
inductive Held where
  | text (data : String)
  | attributeValue (value : Option String)
  | propertyValue (value : Value)

namespace Edit

def field : Edit → Field
  | setText _ => .text
  | setAttribute name _ | toggleAttribute name _ => .attributeNamed name
  | setProperty name _ => .propertyNamed name

/-- What the field holds afterwards. Only turning an attribute on looks at what was there. -/
def leaves : Edit → Option Held → Option Held
  | setText data, _ => some (.text data)
  | setAttribute _ value, _ => some (.attributeValue (some value))
  | toggleAttribute _ true, before => some (before.getD (.attributeValue none))
  | toggleAttribute _ false, _ => none
  | setProperty _ value, _ => some (.propertyValue value)

def onAttributes : Edit → Attributes → Attributes
  | setAttribute name value, attributes => attributes.set name (some value)
  | toggleAttribute name on, attributes => attributes.force name on
  | setText _, attributes | setProperty .., attributes => attributes

def onProperties : Edit → Properties → Properties
  | setProperty name value, properties => properties.set name value
  | setText _, properties | setAttribute .., properties
  | toggleAttribute .., properties => properties

theorem apply_element (e : Edit) (tag : String) (attributes : Attributes) (properties : Properties)
    (cs : List Node) : e.apply (.element tag attributes properties cs) =
      .element tag (e.onAttributes attributes) (e.onProperties properties) cs := by
  cases e <;> rfl

end Edit

namespace Node

/-- The field of a node itself, without what is below it. -/
def held : Field → Node → Option Held
  | .text, .text data | .text, .comment data => some (.text data)
  | .attributeNamed name, .element _ attributes _ _ =>
    (attributes.find? name).map .attributeValue
  | .propertyNamed name, .element _ _ properties _ =>
    (properties.find? name).map .propertyValue
  | _, _ => none

theorem held_apply {e : Edit} {n : Node} (fits : e.fits n.type = true) (f : Field) :
    (e.apply n).held f = if f = e.field then e.leaves (n.held f) else n.held f := by
  cases e with
  | setText data => cases n <;> cases f <;> simp_all [Edit.fits, type, NodeType.hasData,
      Edit.apply, held, Edit.field, Edit.leaves]
  | setAttribute name value =>
    cases n with
    | element tag attributes properties cs =>
      cases f with
      | attributeNamed other =>
        by_cases same : other = name
        · simp [Edit.apply, held, Entries.find?_set, Edit.field, Edit.leaves, same]
        · simp [Edit.apply, held, Entries.find?_set, Edit.field, same, Ne.symm same]
      | text | propertyNamed other => simp [Edit.apply, held, Edit.field]
    | _ => simp [Edit.fits, type] at fits
  | toggleAttribute name on =>
    cases n with
    | element tag attributes properties cs =>
      cases f with
      | attributeNamed other =>
        by_cases same : other = name
        · subst same
          cases on
          · simp [Edit.apply, held, Attributes.force, Entries.find?_erase, Edit.field, Edit.leaves]
          · cases present : attributes.find? other <;> simp [Edit.apply, held, Attributes.force,
              Entries.find?_setIfAbsent, Edit.field, Edit.leaves, present]
        · cases on <;> simp [Edit.apply, held, Attributes.force, Entries.find?_erase,
            Entries.find?_setIfAbsent, Edit.field, same, Ne.symm same]
      | text | propertyNamed other => simp [Edit.apply, held, Edit.field]
    | _ => simp [Edit.fits, type] at fits
  | setProperty name value =>
    cases n with
    | element tag attributes properties cs =>
      cases f with
      | propertyNamed other =>
        by_cases same : other = name
        · simp [Edit.apply, held, Entries.find?_set, Edit.field, Edit.leaves, same]
        · simp [Edit.apply, held, Entries.find?_set, Edit.field, same, Ne.symm same]
      | text | attributeNamed other => simp [Edit.apply, held, Edit.field]
    | _ => simp [Edit.fits, type] at fits

/-- The field of the node that a path leads to. -/
def heldAt (path : Path) (f : Field) (root : Node) : Option Held :=
  (root.at? path).bind (held f)

@[simp] theorem type_apply (e : Edit) (n : Node) : (e.apply n).type = n.type := by
  cases e <;> cases n <;> rfl

@[simp] theorem children_apply (e : Edit) (n : Node) : (e.apply n).children = n.children := by
  cases e <;> cases n <;> rfl

@[simp] theorem held_mapChildren (f : Field) (g : List Node → List Node) (n : Node) :
    (n.mapChildren g).held f = n.held f := by
  cases n <;> cases f <;> rfl

@[simp] theorem type_mapChildren (g : List Node → List Node) (n : Node) :
    (n.mapChildren g).type = n.type := by
  cases n <;> rfl

theorem children_mapChildren_modify (index : Nat) (g : Node → Node) (n : Node) :
    (n.mapChildren (·.modify index g)).children = n.children.modify index g := by
  cases n <;> simp [mapChildren, children]

@[simp] theorem editAt_nil (e : Edit) (n : Node) : n.editAt [] e = e.apply n := rfl

theorem editAt_cons (index : Nat) (path : Path) (e : Edit) (n : Node) :
    n.editAt (index :: path) e = n.mapChildren (·.modify index (·.editAt path e)) := rfl

theorem at?_editAt_cons (index other : Nat) (path rest : Path) (e : Edit) (root : Node) :
    (root.editAt (index :: path) e).at? (other :: rest) =
      if index = other then root.children[other]?.bind fun c => (c.editAt path e).at? rest
      else root.at? (other :: rest) := by
  rw [editAt_cons, at?, children_mapChildren_modify, List.getElem?_modify]
  by_cases same : index = other
  · subst same; cases root.children[index]? <;> simp
  · simp [same, at?]

/-- Fields are looked up in the node that the edit meets, or are as they were. -/
theorem heldAt_editAt_eq (root : Node) (path other : Path) (e : Edit) (f : Field) :
    (root.editAt path e).heldAt other f =
      if other = path then (root.at? path).bind fun n => (e.apply n).held f
      else root.heldAt other f := by
  induction path generalizing root other with
  | nil =>
    cases other with
    | nil => simp [heldAt, at?]
    | cons index rest => simp [heldAt, at?]
  | cons index path ih =>
    cases other with
    | nil => simp [heldAt, at?, editAt_cons]
    | cons position rest =>
      rw [heldAt, at?_editAt_cons]
      by_cases same : index = position
      · subst same
        cases child : root.children[index]? with
        | none => simp [heldAt, at?, child]
        | some c => simpa [heldAt, at?, child] using ih c rest
      · simp [same, Ne.symm same, heldAt]

/-- An edit that fits the node at its path changes its own field there and nothing else. -/
theorem heldAt_editAt {root n : Node} {path : Path} {e : Edit} (found : root.at? path = some n)
    (fits : e.fits n.type = true) (other : Path) (f : Field) :
    (root.editAt path e).heldAt other f =
      if other = path ∧ f = e.field then e.leaves (root.heldAt other f)
      else root.heldAt other f := by
  rw [heldAt_editAt_eq, found, Option.bind_some, held_apply fits]
  by_cases here : other = path
  · subst here
    simp [heldAt, found]
  · simp [here]

theorem held_apply_of_ne {e : Edit} {f : Field} (apart : f ≠ e.field) (n : Node) :
    (e.apply n).held f = n.held f := by
  cases fits : e.fits n.type with
  | true => rw [held_apply fits, if_neg apart]
  | false =>
    have left : e.apply n = n := by
      cases e <;> cases n <;> first | rfl | cases fits
    rw [left]

/-- No edit changes a field that is not its own, whatever it meets. -/
theorem heldAt_editAt_of_ne {path other : Path} {e : Edit} {f : Field}
    (apart : (path, e.field) ≠ (other, f)) (root : Node) :
    (root.editAt path e).heldAt other f = root.heldAt other f := by
  rw [heldAt_editAt_eq]
  split
  · rename_i here
    subst here
    have foreign : f ≠ e.field := fun same => apart (by rw [same])
    rw [heldAt]
    congr 1
    funext n
    exact held_apply_of_ne foreign n
  · rfl

theorem type_at?_editAt (root : Node) (path other : Path) (e : Edit) :
    ((root.editAt path e).at? other).map type = (root.at? other).map type := by
  induction path generalizing root other with
  | nil => cases other <;> simp [at?]
  | cons index path ih =>
    cases other with
    | nil => simp [at?, editAt_cons]
    | cons position rest =>
      rw [at?_editAt_cons]
      by_cases same : index = position
      · subst same
        cases child : root.children[index]? with
        | none => simp [at?, child]
        | some c => simpa [at?, child] using ih c rest
      · simp [same]

mutual

/-- The tree without what edits can change. -/
def shape : Node → Node
  | text _ => text ""
  | comment _ => comment ""
  | element tag _ _ cs => element tag [] [] (shapes cs)
  | fragment cs => fragment (shapes cs)
  | bare => bare
  | bareParent cs => bareParent (shapes cs)

def shapes : List Node → List Node
  | [] => []
  | n :: rest => shape n :: shapes rest

end

theorem shapes_eq_map (ns : List Node) : shapes ns = ns.map shape := by
  induction ns with
  | nil => rfl
  | cons n ns ih => simp [shapes, ih]

@[simp] theorem shape_apply (e : Edit) (n : Node) : (e.apply n).shape = n.shape := by
  cases e <;> cases n <;> rfl

theorem shape_mapChildren {n : Node} {g : List Node → List Node}
    (same : (g n.children).map shape = n.children.map shape) :
    (n.mapChildren g).shape = n.shape := by
  cases n <;> simp_all [mapChildren, shape, children, shapes_eq_map]

theorem map_modify_of_invariant {f : Node → Node} (same : ∀ n, (f n).shape = n.shape)
    (index : Nat) (ns : List Node) : (ns.modify index f).map shape = ns.map shape := by
  apply List.ext_getElem?
  intro i
  simp only [List.getElem?_map, List.getElem?_modify]
  cases ns[i]? <;> by_cases here : index = i <;> simp [here, same]

theorem shape_editAt (root : Node) (path : Path) (e : Edit) :
    (root.editAt path e).shape = root.shape := by
  induction path generalizing root with
  | nil => simp
  | cons index path ih =>
    rw [editAt_cons]
    exact shape_mapChildren (map_modify_of_invariant ih index _)

/-- Edits one after the other. -/
def editAll (edits : List (Path × Edit)) (root : Node) : Node :=
  edits.foldl (fun n s => n.editAt s.1 s.2) root

/-- Edits of trees that stand side by side; a path begins with the place among them. -/
def editAmong : Path × Edit → List Node → List Node
  | ([], _), ns => ns
  | (index :: path, e), ns => ns.modify index (·.editAt path e)

def editAllAmong (edits : List (Path × Edit)) (ns : List Node) : List Node :=
  edits.foldl (fun ns s => editAmong s ns) ns

theorem editAll_append (first later : List (Path × Edit)) (root : Node) :
    root.editAll (first ++ later) = (root.editAll first).editAll later := by
  simp [editAll]

theorem type_at?_editAll (edits : List (Path × Edit)) (root : Node) (path : Path) :
    ((root.editAll edits).at? path).map type = (root.at? path).map type := by
  induction edits generalizing root with
  | nil => rfl
  | cons s edits ih => exact (ih (root.editAt s.1 s.2)).trans (type_at?_editAt root s.1 path s.2)

theorem heldAt_editAll_of_ne {edits : List (Path × Edit)} {path : Path} {f : Field}
    (apart : ∀ s ∈ edits, (s.1, s.2.field) ≠ (path, f)) (root : Node) :
    (root.editAll edits).heldAt path f = root.heldAt path f := by
  induction edits generalizing root with
  | nil => rfl
  | cons s edits ih =>
    obtain ⟨here, others⟩ := List.forall_mem_cons.mp apart
    exact (ih others (root.editAt s.1 s.2)).trans (heldAt_editAt_of_ne here root)

theorem editAllAmong_append (first later : List (Path × Edit)) (ns : List Node) :
    editAllAmong (first ++ later) ns = editAllAmong later (editAllAmong first ns) := by
  simp [editAllAmong]

/-- Edits of an element itself. -/
theorem editAll_element {edits : List (Path × Edit)} (here : ∀ s ∈ edits, s.1 = [])
    (tag : String) (attributes : Attributes) (properties : Properties) (cs : List Node) :
    (element tag attributes properties cs).editAll edits =
      element tag (edits.foldl (fun attributes s => s.2.onAttributes attributes) attributes)
        (edits.foldl (fun properties s => s.2.onProperties properties) properties) cs := by
  induction edits generalizing attributes properties with
  | nil => rfl
  | cons s edits ih =>
    obtain ⟨path, e⟩ := s
    obtain ⟨rfl, others⟩ := List.forall_mem_cons.mp here
    have step : (element tag attributes properties cs).editAll (([], e) :: edits) =
        (e.apply (element tag attributes properties cs)).editAll edits := rfl
    rw [step, Edit.apply_element, ih others]
    rfl

/-- Edits below a node go to its children. -/
theorem editAll_below {edits : List (Path × Edit)} (below : ∀ s ∈ edits, s.1 ≠ []) (n : Node) :
    n.editAll edits = n.mapChildren (editAllAmong edits) := by
  induction edits generalizing n with
  | nil => cases n <;> rfl
  | cons s edits ih =>
    obtain ⟨path, e⟩ := s
    obtain ⟨here, rest⟩ := List.forall_mem_cons.mp below
    cases path with
    | nil => exact absurd rfl here
    | cons index path =>
      have step : n.editAll ((index :: path, e) :: edits) =
          (n.editAt (index :: path) e).editAll edits := rfl
      rw [step, ih rest]
      cases n <;> rfl

theorem editAllAmong_first (edits : List (Path × Edit)) (n : Node) (ns : List Node) :
    editAllAmong (edits.map (Prod.map (0 :: ·) id)) (n :: ns) = n.editAll edits :: ns := by
  induction edits generalizing n with
  | nil => rfl
  | cons s edits ih => exact ih (n.editAt s.1 s.2)

theorem editAllAmong_later (edits : List (Path × Edit)) (n : Node) (ns : List Node) :
    editAllAmong (edits.map (Prod.map (later 1) id)) (n :: ns) =
      n :: editAllAmong edits ns := by
  induction edits generalizing ns with
  | nil => rfl
  | cons s edits ih =>
    obtain ⟨path, e⟩ := s
    cases path with
    | nil => exact ih ns
    | cons index path => exact ih (ns.modify index (·.editAt path e))

/-- Edits of trees that stand behind others. -/
theorem editAllAmong_behind (edits : List (Path × Edit)) (ms ns : List Node) :
    editAllAmong (edits.map (Prod.map (later ms.length) id)) (ms ++ ns) =
      ms ++ editAllAmong edits ns := by
  induction ms with
  | nil => rw [List.length_nil, map_later_zero]; rfl
  | cons m ms ih =>
    have shift : edits.map (Prod.map (later (m :: ms).length) id) =
        (edits.map (Prod.map (later ms.length) id)).map (Prod.map (later 1) id) := by
      simp [Function.comp_def, Prod.map]
    rw [shift, List.cons_append, editAllAmong_later, ih, List.cons_append]

/-- Edits of trees that others stand behind. -/
theorem editAllAmong_before {edits : List (Path × Edit)} {ms : List Node}
    (within : ∀ s ∈ edits, ∃ index rest, s.1 = index :: rest ∧ index < ms.length)
    (ns : List Node) : editAllAmong edits (ms ++ ns) = editAllAmong edits ms ++ ns := by
  induction edits generalizing ms with
  | nil => rfl
  | cons s edits ih =>
    obtain ⟨path, e⟩ := s
    obtain ⟨⟨index, rest, rfl, inside⟩, others⟩ := List.forall_mem_cons.mp within
    have step : editAmong (index :: rest, e) (ms ++ ns) =
        editAmong (index :: rest, e) ms ++ ns := by
      apply List.ext_getElem?
      intro i
      simp only [editAmong, List.getElem?_modify, List.getElem?_append, List.length_modify]
      by_cases left : i < ms.length
      · simp [left]
      · have apart : index ≠ i := by omega
        simp [left, apart]
    have length : (editAmong (index :: rest, e) ms).length = ms.length := by simp [editAmong]
    show editAllAmong edits (editAmong (index :: rest, e) (ms ++ ns)) = _
    rw [step, ih (by rwa [length])]
    rfl

theorem length_editAllAmong (edits : List (Path × Edit)) (ns : List Node) :
    (editAllAmong edits ns).length = ns.length := by
  induction edits generalizing ns with
  | nil => rfl
  | cons s edits ih =>
    obtain ⟨_ | ⟨index, rest⟩, e⟩ := s
    · exact ih ns
    · exact (ih (ns.modify index (·.editAt rest e))).trans (List.length_modify ..)

/-- Trees side by side are edited apart from each other. -/
theorem editAllAmong_apart {edits : List (Path × Edit)} {ms : List Node}
    (within : ∀ s ∈ edits, ∃ index rest, s.1 = index :: rest ∧ index < ms.length)
    (others : List (Path × Edit)) (ns : List Node) :
    editAllAmong (edits ++ others.map (Prod.map (later ms.length) id)) (ms ++ ns) =
      editAllAmong edits ms ++ editAllAmong others ns := by
  rw [editAllAmong_append, editAllAmong_before within, ← length_editAllAmong edits ms,
    editAllAmong_behind]

end Node
end LiveTemplate
