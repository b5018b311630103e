import LiveTemplate.Forest.Outline
import LiveTemplate.Script.Draft

/-! Scripts over a forest whose nodes are known by name. Naming again puts the new node in the old
one's place. -/
namespace LiveTemplate.Script

inductive ForestStep where
  | new (draft : Draft)
  /-- Several nodes are given one by one, or `all` as one list. -/
  | append (on : String) (all : Bool) (nodes : List String)
  | insert (on : String) (position : Int) (node : String)
  | insertAfter (on reference node : String)
  | index (on node : String)
  | removeChild (on node : String)
  | remove (on : String)
  | split (on : String) (offset : Int) (name : String)
  | clone (on name : String)
  | textContent (on : String)
  | allNodes (on : String)
  | walk (on : String)
  | kind (on : String)
  /-- No value is a node. -/
  | isRootValue (l : Literal)
  | render (on : String)
  | getText (on : String)
  | setText (on text : String)
  | attributeNames (on : String)
  | getAttribute (on : String) (name : FieldName)
  | hasAttribute (on : String) (name : FieldName)
  | setAttribute (on : String) (name : FieldName) (value : Option String)
  | removeAttribute (on : String) (name : FieldName)
  /-- The answer is given only if the step `reports`. -/
  | toggleAttribute (on : String) (name : FieldName) (decision : Option Bool) (reports : Bool)
  | setProperty (on : String) (name : FieldName) (value : Literal)

inductive ForestResult where
  | done
  | position (n : Nat)
  | flag (b : Bool)
  | text (s : String)
  | optionalText (s : Option String)
  | labels (names : List String)
  | fieldNames (names : List FieldName)
  | kind (root text element : Bool)

/-- The parent of a named node. -/
inductive ParentName where
  | absent
  | unnamed
  | named (name : String)

/-- A step's result, the named nodes without a parent as trees, and the parents by name. -/
structure ForestAnswer where
  result : Except Error ForestResult
  roots : List Outline
  parents : List (String × ParentName)

structure ForestState where
  forest : Forest
  names : Entries String NodeId
  objects : Objects

namespace ForestState

def start : ForestState := ⟨.empty, [], .start⟩

def nameOf (st : ForestState) (n : NodeId) : Option String :=
  Entries.keyOf? n st.names

def outline (st : ForestState) (n : NodeId) : Outline :=
  st.forest.outline st.nameOf st.forest.depthBound n

def parentName (st : ForestState) (n : NodeId) : ParentName :=
  match st.forest.parent n with
  | none => .absent
  | some parent => match st.nameOf parent with
    | some name => .named name
    | none => .unnamed

/-- In the order of naming. -/
def roots (st : ForestState) : List Outline :=
  (st.names.filter fun entry => (st.forest.parent entry.2).isNone).map fun entry =>
    st.outline entry.2

/-- In the order of the names. -/
def parents (st : ForestState) : List (String × ParentName) :=
  (st.names.mergeSort fun a b => !(b.1 < a.1)).map fun entry => (entry.1, st.parentName entry.2)

def bindName (name : Option String) (n : NodeId) (st : ForestState) : ForestState :=
  match name with
  | some name => { st with names := st.names.set name n }
  | none => st

def node (st : ForestState) (name : String) : Except Error NodeId :=
  match Entries.find? name st.names with
  | some n => .ok n
  | none => .error (.unknownName name)

mutual

/-- An element's properties are evaluated first; children are made and named before their parent. -/
def build : Draft → ForestState → Except Error NodeId × ForestState
  | .named name, st => (st.node name, st)
  | .node name content children, st =>
    match content.evaluate st.objects with
    | .error error => (.error error, st)
    | .ok (content, objects) => match buildAll children { st with objects := objects } with
      | (.error error, st) => (.error error, st)
      | (.ok children, st) =>
        let built := st.forest.construct content children
        let st := { st with forest := built.forest }
        match built.result with
        | .ok n => (.ok n, st.bindName name n)
        | .error error => (.error error, st)

def buildAll : List Draft → ForestState → Except Error (List NodeId) × ForestState
  | [], st => (.ok [], st)
  | d :: rest, st =>
    match build d st with
    | (.error error, st) => (.error error, st)
    | (.ok n, st) => match buildAll rest st with
      | (.ok ns, st) => (.ok (n :: ns), st)
      | (.error error, st) => (.error error, st)

end

abbrev Answered := Except Error ForestResult × ForestState

/-- An edit without an answer. -/
def edited (st : ForestState) (o : Outcome Unit) : Answered :=
  (o.result.map fun _ => .done, { st with forest := o.forest })

/-- An edit whose answer is a new node, which is named. -/
def editedNaming (st : ForestState) (name : String) (o : Outcome NodeId) : Answered :=
  let st := { st with forest := o.forest }
  match o.result with
  | .ok n => (.ok .done, st.bindName (some name) n)
  | .error error => (.error error, st)

def changed (st : ForestState) (n : NodeId) (f : Content Value → Content Value) : Answered :=
  (.ok .done, { st with forest := st.forest.mapContent n f })

/-- A step on one named node. -/
def on1 (st : ForestState) (name : String) (f : NodeId → Answered) : Answered :=
  match st.node name with
  | .ok n => f n
  | .error error => (.error error, st)

/-- A step on several named nodes. -/
def on (st : ForestState) (names : List String) (f : List NodeId → Answered) : Answered :=
  match names.mapM st.node with
  | .ok ns => f ns
  | .error error => (.error error, st)

/-- A step on a named node that must have `member`, as the types do for which `has` holds. -/
def onMember (st : ForestState) (name : String) (has : NodeType → Bool) (member : String)
    (f : NodeId → Answered) : Answered :=
  st.on1 name fun n =>
    let type := (st.forest.content n).type
    if has type then f n else (.error (.missingMember type.name member), st)

/-- A step on a node that can have children. -/
def onParent (st : ForestState) (name member : String) (f : NodeId → Answered) : Answered :=
  st.onMember name NodeType.hasChildren member f

/-- A step on a node that must be of one type. -/
def onType (st : ForestState) (type : NodeType) (name member : String) (f : NodeId → Answered) :
    Answered :=
  st.onMember name (· = type) member f

/-- A question about one named node. -/
def ask (st : ForestState) (name : String) (f : NodeId → ForestResult) : Answered :=
  st.on1 name fun n => (.ok (f n), st)

def toggle (st : ForestState) (n : NodeId) (name : FieldName) (decision : Option Bool)
    (reports : Bool) : Answered :=
  let (present, attributes) := (st.forest.content n).attributes.toggle name decision
  let st := { st with forest := st.forest.mapContent n (·.mapAttributes fun _ => attributes) }
  (.ok (if reports then .flag present else .done), st)

/-- An edit of a named parent and another node. -/
def editPair (st : ForestState) (parent member node : String)
    (f : NodeId → NodeId → Forest → Outcome Unit) : Answered :=
  st.onParent parent member fun p => st.on1 node fun n => st.edited (f p n st.forest)

/-- A question about the attributes of a named element. -/
def askAttributes (st : ForestState) (name member : String) (f : Attributes → ForestResult) :
    Answered :=
  st.onType .element name member fun n => (.ok (f (st.forest.content n).attributes), st)

/-- An edit of the attributes of a named element. -/
def editAttributes (st : ForestState) (name member : String) (f : Attributes → Attributes) :
    Answered :=
  st.onType .element name member fun n => st.changed n (·.mapAttributes f)

/-- The value is evaluated before the node is found to have properties. -/
def setProperty (st : ForestState) (on : String) (name : FieldName) (value : Literal) : Answered :=
  st.on1 on fun _ => match st.objects.evaluate value with
    | .error error => (.error error, st)
    | .ok (v, objects) =>
      { st with objects := objects }.onType .element on "properties" fun n =>
        st.changed n (·.setProperty name v)

def step (st : ForestState) : ForestStep → Answered
  | .new draft =>
    let (result, st) := build draft st
    (result.map fun _ => .done, st)
  | .append name all nodes =>
    st.onParent name (if all then "extend" else "append") fun p =>
      st.on nodes fun ns => st.edited (st.forest.appendAll p ns)
  | .insert name position node =>
    st.editPair name "insert" node fun p n => Forest.insert p position n
  | .insertAfter name reference node =>
    st.onParent name "insert_after" fun p => st.on1 reference fun r => st.on1 node fun n =>
      st.edited (st.forest.insertAfter p r n)
  | .index name node =>
    st.onParent name "index" fun p => st.on1 node fun n =>
      ((st.forest.index p n).map .position, st)
  | .removeChild name node => st.editPair name "remove_child" node Forest.removeChild
  | .remove name => st.on1 name fun n => st.edited (st.forest.detach n)
  | .split name offset new =>
    st.onType .text name "split" fun n => st.editedNaming new (st.forest.split n offset)
  | .clone name new =>
    st.on1 name fun n => st.editedNaming new (st.forest.clone st.forest.depthBound n)
  | .textContent name => st.ask name fun n => .text (st.outline n).toNode.textContent
  | .allNodes name => st.ask name fun n => .labels (st.outline n).allLabels
  | .walk name => st.ask name fun n => .labels (st.outline n).walkLabels
  | .kind name => st.ask name fun n =>
    let node := (st.outline n).toNode
    .kind node.isRoot node.isText node.isElement
  | .isRootValue l => match st.objects.evaluate l with
    | .ok (_, objects) => (.ok (.flag false), { st with objects := objects })
    | .error error => (.error error, st)
  | .render name => st.ask name fun n => .text (Markup.render (st.outline n).toNode)
  | .getText name =>
    st.onMember name NodeType.hasData "data" fun n => (.ok (.text (st.forest.content n).data), st)
  | .setText name text =>
    st.onMember name NodeType.hasData "data" fun n => st.changed n (·.setText text)
  | .attributeNames name =>
    st.askAttributes name "attributes" fun attributes => .fieldNames attributes.keys
  | .getAttribute name key =>
    st.askAttributes name "get_attribute" fun attributes =>
      .optionalText (attributes.find? key).join
  | .hasAttribute name key =>
    st.askAttributes name "has_attribute" fun attributes => .flag (attributes.has key)
  | .setAttribute name key value =>
    st.editAttributes name "set_attribute" fun attributes => attributes.set key value
  | .removeAttribute name key =>
    st.editAttributes name "remove_attribute" fun attributes => attributes.erase key
  | .toggleAttribute name key decision reports =>
    st.onType .element name "toggle_attribute" fun n => st.toggle n key decision reports
  | .setProperty name key value => st.setProperty name key value

def run : List ForestStep → ForestState → List ForestAnswer
  | [], _ => []
  | s :: rest, st =>
    let (result, st) := st.step s
    ⟨result, st.roots, st.parents⟩ :: run rest st

end ForestState

def runForest (steps : List ForestStep) : List ForestAnswer := ForestState.run steps .start

end LiveTemplate.Script
