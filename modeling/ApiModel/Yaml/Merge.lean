import ApiModel.Yaml.Graph
import ApiModel.Fault
import ApiModel.Yaml.Token

/-!
# Merging maps

A map may merge others into itself: the value of an entry with the key `<<` is a map or a list of
maps, and their entries come before the map's own. Of a list of maps the last comes first. What is
merged has its own merges done before. A map without such an entry stays as it is, but for keys that
would stand for the whole map, which become texts.

* `flatten_zero`: when no merge is left to do, the keys become texts and nothing else changes.
-/

namespace ApiModel.Yaml

namespace Graph

/-- An entry whose value is merged into the map. -/
def isMerge (g : Graph) (entry : NodeId × NodeId) : Bool := (g.node entry.1).tag == Tag.merge

/-- The number of entries that are merged in a graph. -/
def mergeCount (g : Graph) : Nat :=
  g.nodes.foldl (fun count node =>
    match node.content with
    | .map entries => count + (entries.filter g.isMerge).length
    | _ => count) 0

/-- What the map at a place merges first, and the graph without that entry. -/
def takeMerge? (g : Graph) (n : NodeId) : Option (NodeId × Graph) :=
  let entries := g.entries n
  (entries.find? g.isMerge).map fun entry =>
    (entry.2, g.fill n (.map (entries.eraseP g.isMerge)))

/-- The graph in which the keys of entries that would stand for a whole map are texts. -/
def textKeys (g : Graph) (entries : List (NodeId × NodeId)) : Graph :=
  entries.foldl (fun g entry =>
    if (g.node entry.1).tag = Tag.value then g.retag entry.1 Tag.str else g) g

/-- The graph in which entries are put before those of the map at a place. -/
def prepend (g : Graph) (n : NodeId) (merged : List (NodeId × NodeId)) : Graph :=
  (g.textKeys (g.entries n)).fill n (.map (merged ++ g.entries n))

/-- The graph in which the map at a place has its merges done; `merged` is what it has merged
already. Each step does one merge of the graph, so the number of merges is enough steps. -/
def flatten (steps : Nat) (g : Graph) (n : NodeId) (merged : List (NodeId × NodeId)) :
    Except Refusal Graph :=
  match steps with
  | 0 => .ok (g.prepend n merged)
  | steps + 1 =>
    match g.takeMerge? n with
    | none => .ok (g.prepend n merged)
    | some (source, g) =>
      match (g.node source).content with
      | .map _ => do
        let g ← flatten steps g source []
        flatten steps g n (merged ++ g.entries source)
      | .list items => do
        let (g, taken) ← items.foldlM (fun (g, taken) item =>
          if g.isMap item then do
            let g ← flatten steps g item []
            return (g, g.entries item ++ taken)
          else .error .malformed) (g, [])
        flatten steps g n (merged ++ taken)
      | .scalar _ => .error .malformed

theorem flatten_zero (g : Graph) (n : NodeId) :
    g.flatten 0 n [] = .ok ((g.textKeys (g.entries n)).fill n (.map (g.entries n))) := rfl

end Graph

end ApiModel.Yaml
