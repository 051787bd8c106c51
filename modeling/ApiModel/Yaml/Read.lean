import ApiModel.Yaml.Document
import ApiModel.Yaml.Meaning

/-!
# Reading YAML

The value of a text is that of its document. A list or map that is mentioned inside itself is not
written out again there. A text without a document stands for the empty value.

* `value_of_mem`: inside itself a list is only mentioned.
-/

namespace ApiModel.Yaml

/-- The value of a node inside other nodes, the innermost first. A node lies inside itself at most
once, so the number of nodes is enough steps. -/
def value (r : Knowledge) (steps : Nat) (around : List NodeId) (n : NodeId) : Value :=
  match steps with
  | 0 => .null
  | steps + 1 =>
    match r.meaning? n with
    | none => .null
    | some (.scalar s) => .scalar s
    | some (.set members) => .set members
    | some (.list items) =>
      if n ∈ around then .enclosing false (around.idxOf n)
      else .list (items.map (value r steps (n :: around)))
    | some (.pairs entries) =>
      if n ∈ around then .enclosing false (around.idxOf n)
      else .list (entries.map fun e =>
        .pair (value r steps (n :: around) e.1) (value r steps (n :: around) e.2))
    | some (.map entries) =>
      if n ∈ around then .enclosing true (around.idxOf n)
      else .map (entries.map fun e => (e.1, value r steps (n :: around) e.2))

theorem value_of_mem {r : Knowledge} {n : NodeId} {items : List NodeId} {around : List NodeId}
    (h : r.meaning? n = some (.list items)) (hn : n ∈ around) (steps : Nat) :
    value r (steps + 1) around n = .enclosing false (around.idxOf n) := by
  simp [value, h, hn]

/-- The value of a text. -/
def read (s : String) : Except Refusal Value := do
  let (graph, root?) ← Document.ofText? s.toList
  match root? with
  | none => return .null
  | some root =>
    let (_, r) ← (Finding.lookAt root).run (.start graph)
    return value r (graph.size + 1) [] root

end ApiModel.Yaml
