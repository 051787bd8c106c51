import ApiModel.Value.Entries
import ApiModel.Yaml.Merge
import ApiModel.Yaml.Scalar

/-!
# What nodes stand for

Each node stands for one thing, however often it is mentioned. A scalar stands for its value at
once. A collection is looked into only when everything met before it has been looked into, and so
what goes wrong first does not depend on how deep it lies. Merges are done when a map is looked
into. Keys are scalars; a key that is repeated keeps its first place and takes its last value.

* `look_of_known`: a node that stands for something already is not looked at again.
-/

namespace ApiModel.Yaml

/-- What a node stands for. The parts of a collection are nodes; keys are scalars. -/
inductive Meaning where
  /-- A scalar. -/
  | scalar (s : ApiModel.Scalar)
  /-- A list. -/
  | list (items : List NodeId)
  /-- A list of pairs. -/
  | pairs (entries : List (NodeId × NodeId))
  /-- A map. -/
  | map (entries : List (ApiModel.Scalar × NodeId))
  /-- A set. -/
  | set (members : List ApiModel.Scalar)

/-- The collection without parts that a tag asks for, if it asks for a collection. -/
def Meaning.empty? (tag : String) : Option Meaning :=
  if tag = Tag.seq then some (.list [])
  else if tag = Tag.map then some (.map [])
  else if tag = Tag.set then some (.set [])
  else if tag = Tag.omap ∨ tag = Tag.pairs then some (.pairs [])
  else none

/-- What is known about the nodes of a graph. -/
structure Knowledge where
  /-- The graph. -/
  graph : Graph
  /-- The number of merges in the graph at the start. -/
  merges : Nat
  /-- What the nodes stand for, as far as it is known. -/
  meanings : Array (Option Meaning)
  /-- The collections met so far, in order. -/
  met : Array NodeId

/-- Steps that find out what nodes stand for. -/
abbrev Finding := StateT Knowledge (Except Refusal)

namespace Knowledge

/-- What is known about a graph at the start. -/
def start (g : Graph) : Knowledge := ⟨g, g.mergeCount, Array.replicate g.size none, #[]⟩

/-- What a node stands for, if it is known. -/
def meaning? (r : Knowledge) (n : NodeId) : Option Meaning := r.meanings.getD n none

/-- What is known when a node stands for something. -/
def know (r : Knowledge) (n : NodeId) (m : Meaning) : Knowledge :=
  { r with meanings := r.meanings.setIfInBounds n (some m) }

end Knowledge

namespace Finding

/-- Ends the search. -/
def refuse {α : Type} : Finding α := throw .malformed

/-! ## Scalars -/

/-- The text of a node that stands for a scalar: its own, or for a map that of the value under the
key that stands for the whole map. A map that leads to itself in this way leads to no text. -/
def textOf (g : Graph) (steps : Nat) (n : NodeId) : Except Refusal String :=
  match steps with
  | 0 => .error (.fault .tooDeep)
  | steps + 1 =>
    match (g.node n).content with
    | .scalar text => .ok text
    | .list _ => .error .malformed
    | .map entries =>
      match entries.find? fun e => (g.node e.1).tag == Tag.value with
      | some entry => textOf g steps entry.2
      | none => .error .malformed

/-- The scalar that a node with a tag for scalars stands for. A map has no day or timestamp. -/
def scalarOf (g : Graph) (n : NodeId) : Except Refusal ApiModel.Scalar := do
  let tag := (g.node n).tag
  if tag ∉ Tag.ofScalars then throw .malformed
  let text ← textOf g (g.size + 1) n
  if tag = Tag.timestamp ∧ g.isMap n then throw (.fault .wrongKind)
  Scalar.ofTag tag (n + 1) text

/-! ## Nodes -/

/-- Looks at a node: a scalar stands for its value, and a collection is met. -/
def look (n : NodeId) : Finding Unit := do
  let r ← get
  match r.meaning? n, Meaning.empty? (r.graph.node n).tag with
  | some _, _ => return
  | none, some m => set { r.know n m with met := r.met.push n }
  | none, none => set (r.know n (.scalar (← scalarOf r.graph n)))

theorem look_of_known {n : NodeId} {r : Knowledge} {m : Meaning} (h : r.meaning? n = some m) :
    (look n).run r = .ok ((), r) := by
  change (match r.meaning? n, Meaning.empty? (r.graph.node n).tag with
    | some _, _ => (pure () : Finding Unit)
    | none, some m => set { r.know n m with met := r.met.push n }
    | none, none => do set (r.know n (.scalar (← scalarOf r.graph n)))) r = .ok ((), r)
  rw [h]
  rfl

/-- The scalar that a node used as a key stands for. -/
def key (n : NodeId) : Finding ApiModel.Scalar := do
  look n
  match (← get).meaning? n with
  | some (.scalar s) => return s
  | _ => refuse

/-- The entries of a map after its merges, each put in after the others. -/
def entries (n : NodeId) : Finding (List (ApiModel.Scalar × NodeId)) := do
  let r ← get
  if !r.graph.isMap n then refuse
  let g ← r.graph.flatten r.merges n []
  set { r with graph := g }
  (g.entries n).foldlM (fun es entry => do
    let k ← key entry.1
    look entry.2
    return Entries.put es k entry.2) []

/-- The one entry of a map. -/
def pair (n : NodeId) : Finding (NodeId × NodeId) := do
  match ((← get).graph.node n).content with
  | .map [entry] =>
    look entry.1
    look entry.2
    return entry
  | _ => refuse

/-- The items of a list. -/
def items (n : NodeId) : Finding (List NodeId) := do
  match ((← get).graph.node n).content with
  | .list items => return items
  | _ => refuse

/-- Looks into a collection. -/
def lookInto (n : NodeId) : Finding Unit := do
  let meaning ← match (← get).meaning? n with
    | some (.list _) => do
      let items ← items n
      items.forM look
      pure (.list items)
    | some (.pairs _) => .pairs <$> (← items n).mapM pair
    | some (.map _) => .map <$> entries n
    | some (.set _) => (fun es => .set (es.map (·.1))) <$> entries n
    | _ => return
  modify fun r => r.know n meaning

/-- Looks into the collections met, from an index on. Each step looks into one of them, so the
number of nodes is enough steps. -/
def lookIntoAll (steps index : Nat) : Finding Unit :=
  match steps with
  | 0 => return
  | steps + 1 => do
    match (← get).met[index]? with
    | none => return
    | some n =>
      lookInto n
      lookIntoAll steps (index + 1)

/-- Looks into everything that a node holds. -/
def lookAt (root : NodeId) : Finding Unit := do
  look root
  lookIntoAll (← get).graph.size 0

end Finding

end ApiModel.Yaml
