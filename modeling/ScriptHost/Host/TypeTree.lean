import ScriptHost.Host.Type

/-!
# The type tree

The tree of host namespaces and types grows as scripts walk it. A node starts
unknown. It becomes a type once its full name is registered at a moment when that is
asked for, and a namespace once it gets a child without being a type. A failed
attempt is remembered together with the version of the registry, so it is repeated
only after the set of types has changed. From the tenth child on a node keeps an
index of its children's names.
-/

namespace ScriptHost

/-- What is known about a node. -/
inductive Classification where
  | unknown | scope | type
deriving DecidableEq, Repr

/-- The name of a classification. -/
def Classification.label : Classification → String
  | .unknown => "Unknown"
  | .scope => "Namespace"
  | .type => "Type"

/-- A node of the type tree. -/
structure Node where
  name : String
  parent : Option NodeId
  children : List NodeId := []
  /-- Positions of the children by name. -/
  nameIndex : Option (List (String × Nat)) := none
  resolved : Option HostTypeId := none
  /-- The version of the registry at the last failed attempt. -/
  checked : Option UInt64 := none
  classification : Classification := .unknown
deriving DecidableEq

/-- The type tree: its nodes in creation order, the root first. -/
structure TypeTree where
  nodes : Array Node
deriving DecidableEq

namespace TypeTree

/-- The root. -/
def root : NodeId := ⟨0⟩

/-- The name that scripts use for the root. -/
def rootName : String := "clr"

/-- The tree of a root alone. -/
def initial : TypeTree := ⟨#[{ name := "", parent := none, classification := .scope }]⟩

/-- How many children a node has when it starts to keep an index. -/
def indexedFrom : Nat := 10

/-- The node of an identity. -/
def node? (tree : TypeTree) (id : NodeId) : Option Node := tree.nodes[id.index]?

/-- The name of a node. -/
def name (tree : TypeTree) (id : NodeId) : String := ((tree.node? id).map (·.name)).getD ""

/-- The children of a node in creation order. -/
def children (tree : TypeTree) (id : NodeId) : List NodeId :=
  ((tree.node? id).map (·.children)).getD []

/-- The classification of a node. -/
def classification (tree : TypeTree) (id : NodeId) : Classification :=
  ((tree.node? id).map (·.classification)).getD .unknown

/-- The names of a node's children in creation order. -/
def childNames (tree : TypeTree) (id : NodeId) : List String := (tree.children id).map tree.name

/-- The tree with a node changed. -/
def update (tree : TypeTree) (id : NodeId) (change : Node → Node) : TypeTree :=
  ⟨tree.nodes.modify id.index change⟩

/-- The nodes from one below the root down to a given node, in at most `steps` steps. -/
def pathFrom (tree : TypeTree) : Nat → NodeId → List NodeId
  | 0, _ => []
  | steps + 1, id =>
    match (tree.node? id).bind (·.parent) with
    | some parent => pathFrom tree steps parent ++ [id]
    | none => []

/-- What separates a name from that of its parent: a dot below a namespace, a plus sign
below anything else. -/
def separator (tree : TypeTree) (parent : Option NodeId) : String :=
  match parent with
  | some id => if tree.classification id = .scope then "." else "+"
  | none => "+"

/-- The names of a path with their separators. The first name stands alone. -/
def joined (tree : TypeTree) : List NodeId → String
  | [] => ""
  | first :: rest =>
    rest.foldl
      (fun text id => text ++ tree.separator ((tree.node? id).bind (·.parent)) ++ tree.name id)
      (tree.name first)

/-- The full name of a node. The root has none. -/
def fullName (tree : TypeTree) (id : NodeId) : String :=
  tree.joined (tree.pathFrom tree.nodes.size id)

/-- How a node is shown. -/
def display (tree : TypeTree) (id : NodeId) : String :=
  if id = root then rootName else tree.fullName id

/-- The position of a name in an index. -/
def position? (name : String) : List (String × Nat) → Option Nat
  | [] => none
  | (other, position) :: rest => if other = name then some position else position? name rest

/-- The first child whose name matches, with its position from `start`. -/
def scan (tree : TypeTree) (name : String) (ignoreCase : Bool) :
    Nat → List NodeId → Option (NodeId × Nat)
  | _, [] => none
  | start, id :: rest =>
    if sameName ignoreCase (tree.name id) name then some (id, start)
    else scan tree name ignoreCase (start + 1) rest

/-- The child of a name with its position. Where there is an index it answers exact names. -/
def lookUp? (tree : TypeTree) (parent : NodeId) (name : String) (ignoreCase : Bool) :
    Option (NodeId × Nat) :=
  match (tree.node? parent).bind (·.nameIndex) with
  | none => tree.scan name ignoreCase 0 (tree.children parent)
  | some index =>
    match position? name index with
    | some position => ((tree.children parent)[position]?).map fun id => (id, position)
    | none => if ignoreCase then tree.scan name ignoreCase 0 (tree.children parent) else none

/-- A node with one more child. `names` are the names of all its children then. -/
def Node.adopt (node : Node) (child : NodeId) (name : String) (names : List String) : Node :=
  let nameIndex :=
    match node.nameIndex with
    | some index => some (index ++ [(name, node.children.length)])
    | none => if indexedFrom ≤ names.length then some names.zipIdx else none
  { node with children := node.children ++ [child], nameIndex }

/-- The tree with a new child of a node. -/
def append (tree : TypeTree) (parent : NodeId) (name : String) : TypeTree :=
  let child : NodeId := ⟨tree.nodes.size⟩
  let names := tree.childNames parent ++ [name]
  let grown : TypeTree := ⟨tree.nodes.push { name, parent := some parent }⟩
  grown.update parent fun node => Node.adopt node child name names

/-- Whether an attempt to find the type of a node can succeed. -/
def needsAttempt (registry : Registry) (node : Node) : Bool :=
  node.parent.isSome && node.classification != .scope &&
    node.checked != some registry.stamp

/-- The type of a node and the tree that remembers the answer. -/
def resolve (tree : TypeTree) (registry : Registry) (id : NodeId) :
    Option HostTypeId × TypeTree :=
  match tree.node? id with
  | none => (none, tree)
  | some node =>
    match node.resolved with
    | some type => (some type, tree)
    | none =>
      if needsAttempt registry node then
        match registry.find? (tree.fullName id) with
        | some type =>
          (some type, tree.update id fun node =>
            { node with resolved := some type, classification := .type })
        | none => (none, tree.update id fun node => { node with checked := some registry.stamp })
      else (none, tree)

/-- An unknown node settled as a type or a namespace. -/
def settle (tree : TypeTree) (registry : Registry) (id : NodeId) : TypeTree :=
  if tree.classification id = .unknown then
    let tried := (tree.resolve registry id).2
    if tried.classification id = .unknown then
      tried.update id fun node => { node with classification := .scope }
    else tried
  else tree

/-- The child of a name, made if there is none, with its position. -/
def visit (tree : TypeTree) (registry : Registry) (parent : NodeId) (name : String)
    (ignoreCase : Bool) : (NodeId × Nat) × TypeTree :=
  match tree.lookUp? parent name ignoreCase with
  | some found => (found, tree.settle registry parent)
  | none =>
    let found := (⟨tree.nodes.size⟩, (tree.children parent).length)
    (found, (tree.append parent name).settle registry parent)

/-- The child at a position. -/
def childAt? (tree : TypeTree) (parent : NodeId) (position : Nat) : Option NodeId :=
  (tree.children parent)[position]?

/-- Whether a node keeps an index of its children's names. -/
def isIndexed (tree : TypeTree) (id : NodeId) : Bool :=
  ((tree.node? id).bind (·.nameIndex)).isSome

end TypeTree

end ScriptHost
