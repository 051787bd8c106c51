import ApiModel.Yaml.Tag

/-!
# Graphs of nodes

The nodes of a document are kept in an array, and a collection names its parts by their places in
it. A part can so be shared between collections, and a collection can be a part of itself.

* `node_push_size`, `node_push_of_lt`: a node that is added is found at its place, and the others
  stay where they were.
-/

namespace ApiModel.Yaml

/-- The place of a node in its graph. -/
abbrev NodeId := Nat

/-- What a node holds. -/
inductive Content where
  /-- A scalar. -/
  | scalar (text : String)
  /-- A list. -/
  | list (items : List NodeId)
  /-- A map, whose keys are nodes as well. -/
  | map (entries : List (NodeId × NodeId))

/-- A node with its tag. -/
structure Node where
  /-- The tag. -/
  tag : String
  /-- What it holds. -/
  content : Content

/-- The node of a scalar that is not there. -/
def Node.empty : Node := ⟨Tag.null, .scalar ""⟩

/-- The nodes of a document. -/
structure Graph where
  /-- The nodes, each at its place. -/
  nodes : Array Node

namespace Graph

/-- The number of nodes. -/
def size (g : Graph) : Nat := g.nodes.size

/-- The node at a place. -/
def node (g : Graph) (n : NodeId) : Node := g.nodes.getD n .empty

/-- The graph with one more node, at the place after the last. -/
def push (g : Graph) (node : Node) : Graph := ⟨g.nodes.push node⟩

/-- The graph with another content of the node at a place. -/
def fill (g : Graph) (n : NodeId) (content : Content) : Graph :=
  ⟨g.nodes.modify n fun node => { node with content := content }⟩

/-- The graph with another tag of the node at a place. -/
def retag (g : Graph) (n : NodeId) (tag : String) : Graph :=
  ⟨g.nodes.modify n fun node => { node with tag := tag }⟩

/-- The entries of the map at a place; none if there is something else. -/
def entries (g : Graph) (n : NodeId) : List (NodeId × NodeId) :=
  match (g.node n).content with
  | .map entries => entries
  | _ => []

/-- Whether a map stands at a place. -/
def isMap (g : Graph) (n : NodeId) : Bool :=
  match (g.node n).content with
  | .map _ => true
  | _ => false

theorem node_push_size (g : Graph) (node : Node) : (g.push node).node g.size = node := by
  simp [Graph.node, push, size]

theorem node_push_of_lt {g : Graph} {n : NodeId} (h : n < g.size) (node : Node) :
    (g.push node).node n = g.node n := by
  simp only [size] at h
  have h' : n < g.nodes.size + 1 := Nat.lt_succ_of_lt h
  simp [Graph.node, push, Array.getD, h, h', Array.getElem_push]

end Graph

end ApiModel.Yaml
