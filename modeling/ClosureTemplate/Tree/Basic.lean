import ClosureTemplate.Error
import ClosureTemplate.Table
import ClosureTemplate.Tree.ElementKind

namespace ClosureTemplate

abbrev NodeId := Nat

structure Node where
  kind : ElementKind
  name : Option String := none
  text : String := ""
  attributes : Table String String := []
  parent : Option NodeId := none
  children : List NodeId := []
  deriving DecidableEq, Repr

structure NodeSpec where
  name : Option String := none
  text : Option String := none
  attributes : List (String × String) := []
  deriving DecidableEq, Repr

def NodeSpec.plain (spec : NodeSpec) (kind : ElementKind) : Node :=
  { kind, text := spec.text.getD "" }

def NodeSpec.named (spec : NodeSpec) (kind : ElementKind) : Node :=
  let name := spec.name.getD ""
  { kind, name := some name, text := spec.text.getD name }

def NodeSpec.parameterDefinition (spec : NodeSpec) : Node :=
  let optional := if spec.attributes.contains ("optional", "true") then "true" else "false"
  { spec.named .docCommentParamDef with attributes := [("optional", optional)] }

/-- A node without its place, made as its kind asks. The given attributes come last and replace
those that the kind sets. -/
def NodeSpec.node (spec : NodeSpec) (kind : ElementKind) : Node :=
  let node := match kind with
    | .docCommentParamDef => spec.parameterDefinition
    | .namespaceDef | .templateTag | .callTag | .paramTag | .parameterRef => spec.named kind
    | .soyFile | .tagAndDocComment | .docComment | .templateTagPair | .callTagPair | .msgTag
    | .printTag | .templateText => spec.plain kind
  { node with
    attributes := spec.attributes.foldl (fun table entry => table.put entry.1 entry.2)
      node.attributes }

def Node.adopt (child : NodeId) (node : Node) : Node :=
  { node with children := node.children ++ [child] }

structure Tree where
  nodes : List Node := []
  deriving DecidableEq, Repr

namespace Tree

def empty : Tree := {}

def size (tree : Tree) : Nat := tree.nodes.length

def node? (tree : Tree) (id : NodeId) : Option Node := tree.nodes[id]?

/-- Builds a node under a parent, or as a root. The parent has to be a node of the tree. -/
def build (tree : Tree) (kind : ElementKind) (parent : Option NodeId) (spec : NodeSpec) :
    Except Error (NodeId × Tree) :=
  let id := tree.size
  let node := { spec.node kind with parent }
  match parent with
  | none => .ok (id, ⟨tree.nodes ++ [node]⟩)
  | some parent =>
    if parent < id then .ok (id, ⟨tree.nodes.modify parent (Node.adopt id) ++ [node]⟩)
    else .error (.unknownParent parent id)

def parent? (tree : Tree) (id : NodeId) : Option NodeId := (tree.node? id).bind Node.parent

def children (tree : Tree) (id : NodeId) : List NodeId :=
  ((tree.node? id).map Node.children).getD []

def kind? (tree : Tree) (id : NodeId) : Option ElementKind := (tree.node? id).map Node.kind

def name? (tree : Tree) (id : NodeId) : Option String := (tree.node? id).bind Node.name

def text (tree : Tree) (id : NodeId) : String := ((tree.node? id).map Node.text).getD ""

def attributes (tree : Tree) (id : NodeId) : Table String String :=
  ((tree.node? id).map Node.attributes).getD []

def attribute? (tree : Tree) (id : NodeId) (name : String) : Option String :=
  (tree.attributes id).get? name

def isKind (tree : Tree) (kind : ElementKind) (id : NodeId) : Bool := tree.kind? id = some kind

def root? (tree : Tree) : Option NodeId := tree.nodes.findIdx? (·.parent.isNone)

def siblings (tree : Tree) (id : NodeId) : List NodeId × List NodeId :=
  match tree.parent? id with
  | none => ([], [])
  | some parent =>
    let all := tree.children parent
    match all.idxOf? id with
    | some index => (all.take index, all.drop (index + 1))
    | none => ([], [])

/-- The node and its ancestors, nearest first. Parents have smaller numbers than their children. -/
def ancestors (tree : Tree) (id : NodeId) : List NodeId :=
  match tree.parent? id with
  | some parent => if parent < id then id :: tree.ancestors parent else [id]
  | none => [id]

def levelsBelow (tree : Tree) : Nat → List NodeId → List (List NodeId)
  | 0, _ => []
  | depth + 1, level =>
    match level.flatMap tree.children with
    | [] => []
    | next => next :: tree.levelsBelow depth next

/-- The levels of the proper descendants of a node. No branch is longer than the tree is large. -/
def levels (tree : Tree) (id : NodeId) : List (List NodeId) := tree.levelsBelow tree.size [id]

def display (tree : Tree) (id : NodeId) : String :=
  match tree.node? id with
  | some node =>
    let head := s!"{node.kind.name}#{id}"
    match node.name with
    | some name => s!"{head}({name})"
    | none => head
  | none => s!"#{id}"

end Tree

end ClosureTemplate
