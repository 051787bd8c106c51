import ApiModel.Yaml.Graph
import ApiModel.Yaml.Lexer

/-!
# YAML documents

The graph of nodes of a document is read off the tokens. A name given to a node stands for the node
wherever it is mentioned later; a collection has its name before its parts are read, so that they
may mention it. A text holds at most one document, and collections lie within each other to a depth
of at most `maxDepth`.

The reader's way is bounded by a number of steps computed from the number of tokens, of which each
step inwards or onwards takes one; the bound is never met.
-/

namespace ApiModel.Yaml

/-- The greatest depth of collections within each other. -/
def maxDepth : Nat := 486

namespace Document

/-! ## Reading tokens -/

/-- What is known while the tokens are read. -/
structure Reading where
  /-- The number of tokens taken. -/
  place : Nat
  /-- The handles of tags and the beginnings they stand for. -/
  handles : List (String × String)
  /-- The names given to nodes so far. -/
  names : List (String × NodeId)
  /-- The nodes so far. -/
  graph : Graph
  /-- The number of collections around the place. -/
  depth : Nat

/-- The handles that every document has. -/
def standardHandles : List (String × String) := [("!", "!"), ("!!", Tag.standard "")]

/-- Steps that read tokens. -/
abbrev Reader := ReaderT Tokens (StateT Reading (Except Refusal))

/-- Ends the reading. -/
def refuse {α : Type} : Reader α := throw .malformed

/-- The next token. -/
def next : Reader Token := do
  let ts ← read
  match ts.found[(← get).place]?, ts.obstacle with
  | some t, _ => return t
  | none, some r => throw r
  | none, none => return .streamEnd

/-- Takes the next token. -/
def take : Reader Unit := modify fun r => { r with place := r.place + 1 }

/-- Adds a node, which may have a name. -/
def add (name : Option String) (node : Node) : Reader NodeId :=
  modifyGet fun r =>
    let n := r.graph.size
    let names := match name with
      | some s => (s, n) :: r.names
      | none => r.names
    (n, { r with graph := r.graph.push node, names := names })

/-- The node of a scalar that is not there. -/
def absent : Reader NodeId := add none .empty

/-- A collection with parts that are still to be read. -/
def collection (name : Option String) (tag : String) (parts : Reader Content) : Reader NodeId := do
  if maxDepth ≤ (← get).depth then throw (.fault .tooDeep)
  let n ← add name ⟨tag, .list []⟩
  modify fun r => { r with depth := r.depth + 1 }
  let content ← parts
  modify fun r => { r with depth := r.depth - 1, graph := r.graph.fill n content }
  return n

/-- A name of a node, if one comes next. -/
def anchor? : Reader (Option String) := do
  match ← next with
  | .anchor n => take; return some n
  | _ => return none

/-- A tag, if one comes next, with its handle unless it is written out. -/
def tag? : Reader (Option (Option String × String)) := do
  match ← next with
  | .tag handle suffix => take; return some (handle, suffix)
  | _ => return none

/-- A tag with its handle replaced. -/
def resolve : Option (Option String × String) → Reader (Option String)
  | none => return none
  | some (none, suffix) => return some suffix
  | some (some handle, suffix) => do
    match (← get).handles.lookup handle with
    | some beginning => return some (beginning ++ suffix)
    | none => refuse

/-- The name and the tag before a node, in either order. -/
def properties : Reader (Option String × Option String) := do
  match ← anchor? with
  | some n => return (some n, ← resolve (← tag?))
  | none =>
    let tag ← tag?
    let name ← if tag.isSome then anchor? else pure none
    return (name, ← resolve tag)

/-- Whether a tag leaves the choice to the form of the node. -/
def leavesOpen : Option String → Bool
  | none => true
  | some t => t == "!"

/-- The tag of a collection. -/
def collectionTag (given : Option String) (standard : String) : String :=
  if leavesOpen given then standard else given.getD standard

/-- The tag of a scalar. -/
def scalarTag (given : Option String) (plain : Bool) (content : String) : String :=
  match given with
  | none => if plain then Tag.ofPlain content else Tag.str
  | some t => if t = "!" then Tag.ofPlain content else t

/-- Whether a token can follow the mark of a key or value without a node between them. -/
def endsBlockEntry : Token → Bool
  | .key | .value | .blockEnd => true
  | _ => false

/-- Whether a token can follow the hyphen of an item without a node between them; in a list that is
not indented of its own, also the parts of the map around it. -/
def endsBlockItem (indented : Bool) : Token → Bool
  | .blockItem | .blockEnd => true
  | .key | .value => !indented
  | _ => false

/-- Whether a token can follow a part of a flow collection. -/
def endsFlowPart (inMap afterKey : Bool) : Token → Bool
  | .comma => true
  | .value => afterKey
  | .flowMapEnd => inMap
  | .flowListEnd => !inMap
  | _ => false

/-- A node of which there is nothing but a name or tag. -/
def bare (name tag : Option String) : Reader NodeId :=
  if name.isSome ∨ tag.isSome then add name ⟨scalarTag tag true "", .scalar ""⟩ else refuse

/-- The comma before every part of a flow collection but the first. -/
def flowComma (first : Bool) : Reader Unit := do
  if first then return
  else match ← next with
    | .comma => take
    | _ => refuse

mutual

/-- A node. Block collections can stand where a block node can, and a list that is not indented of
its own only as part of a map. -/
def node (steps : Nat) (block inMap : Bool) : Reader NodeId :=
  match steps with
  | 0 => refuse
  | steps + 1 => do
    match ← next with
    | .alias n =>
      take
      match (← get).names.lookup n with
      | some node => return node
      | none => refuse
    | _ =>
      let (name, tag) ← properties
      content steps block inMap name tag

/-- A node after its name and tag. -/
def content (steps : Nat) (block inMap : Bool) (name tag : Option String) : Reader NodeId :=
  match steps with
  | 0 => refuse
  | steps + 1 => do
    let start ← next
    let known := (← get).names
    if name.any fun n => (known.lookup n).isSome then refuse
    else match start with
    | .scalar text plain => take; add name ⟨scalarTag tag plain text, .scalar text⟩
    | .flowListStart =>
      take
      collection name (collectionTag tag Tag.seq) (.list <$> flowItems steps true)
    | .flowMapStart =>
      take
      collection name (collectionTag tag Tag.map) (.map <$> flowEntries steps true)
    | .blockItem =>
      if inMap then
        collection name (collectionTag tag Tag.seq) (.list <$> blockItems steps false)
      else bare name tag
    | .blockListStart =>
      if block then
        take
        collection name (collectionTag tag Tag.seq) (.list <$> blockItems steps true)
      else bare name tag
    | .blockMapStart =>
      if block then
        take
        collection name (collectionTag tag Tag.map) (.map <$> blockEntries steps)
      else bare name tag
    | _ => bare name tag

/-- The items of a block list that is indented of its own, or not. -/
def blockItems (steps : Nat) (indented : Bool) : Reader (List NodeId) :=
  match steps with
  | 0 => refuse
  | steps + 1 => do
    match ← next with
    | .blockItem =>
      take
      let item ← if endsBlockItem indented (← next) then absent else node steps true false
      return item :: (← blockItems steps indented)
    | .blockEnd => if indented then take; return [] else return []
    | _ => if indented then refuse else return []

/-- The entries of a block map. -/
def blockEntries (steps : Nat) : Reader (List (NodeId × NodeId)) :=
  match steps with
  | 0 => refuse
  | steps + 1 => do
    match ← next with
    | .blockEnd => take; return []
    | .key =>
      take
      let key ← if endsBlockEntry (← next) then absent else node steps true true
      let value ← blockValue steps
      return (key, value) :: (← blockEntries steps)
    | _ => refuse

/-- The value of an entry of a block map. -/
def blockValue (steps : Nat) : Reader NodeId :=
  match steps with
  | 0 => refuse
  | steps + 1 => do
    match ← next with
    | .value =>
      take
      if endsBlockEntry (← next) then absent else node steps true true
    | _ => absent

/-- The items of a flow list. An item with a key is a map of one entry. -/
def flowItems (steps : Nat) (first : Bool) : Reader (List NodeId) :=
  match steps with
  | 0 => refuse
  | steps + 1 => do
    match ← next with
    | .flowListEnd => take; return []
    | _ =>
      flowComma first
      match ← next with
      | .flowListEnd => take; return []
      | .key =>
        take
        let pair ← collection none Tag.map do
          let key ←
            if endsFlowPart false true (← next) then absent else node steps false false
          return .map [(key, ← flowValue steps false)]
        return pair :: (← flowItems steps false)
      | _ =>
        let item ← node steps false false
        return item :: (← flowItems steps false)

/-- The entries of a flow map. A node without the mark of a key has no value. -/
def flowEntries (steps : Nat) (first : Bool) : Reader (List (NodeId × NodeId)) :=
  match steps with
  | 0 => refuse
  | steps + 1 => do
    match ← next with
    | .flowMapEnd => take; return []
    | _ =>
      flowComma first
      match ← next with
      | .flowMapEnd => take; return []
      | .key =>
        take
        let key ←
          if endsFlowPart true true (← next) then absent else node steps false false
        let value ← flowValue steps true
        return (key, value) :: (← flowEntries steps false)
      | _ =>
        let key ← node steps false false
        return (key, ← absent) :: (← flowEntries steps false)

/-- The value of an entry in a flow collection. -/
def flowValue (steps : Nat) (inMap : Bool) : Reader NodeId :=
  match steps with
  | 0 => refuse
  | steps + 1 => do
    match ← next with
    | .value =>
      take
      if endsFlowPart inMap false (← next) then absent else node steps false false
    | _ => absent

end

/-! ## Documents -/

/-- The directives before a document, which set its handles. -/
def directives (steps : Nat) (versioned : Bool) : Reader Unit :=
  match steps with
  | 0 => refuse
  | steps + 1 => do
    match ← next with
    | .directive (.version major) =>
      if versioned ∨ major ≠ 1 then refuse
      else take; directives steps true
    | .directive (.handle name beginning) =>
      if ((← get).handles.lookup name).isSome then refuse
      else
        take
        modify fun r => { r with handles := (name, beginning) :: r.handles }
        directives steps versioned
    | .directive .other => take; directives steps versioned
    | _ => return

/-- Takes marks after documents. -/
def documentEnds : Nat → Reader Unit
  | 0 => refuse
  | steps + 1 => do
    match ← next with
    | .documentEnd => take; documentEnds steps
    | _ => return

/-- The node of a document that begins with directives or a mark. -/
def marked (steps : Nat) : Reader NodeId := do
  directives steps false
  modify fun r => { r with handles := r.handles ++ standardHandles }
  match ← next with
  | .documentStart =>
    take
    match ← next with
    | .directive _ | .documentStart | .documentEnd | .streamEnd => absent
    | _ => node steps true false
  | _ => refuse

/-- The node of the one document of a text, if there is one. -/
def root? (steps : Nat) : Reader (Option NodeId) := do
  let root ← match ← next with
    | .streamEnd => return none
    | .directive _ | .documentStart => marked steps
    | _ =>
      modify fun r => { r with handles := standardHandles }
      node steps true false
  documentEnds steps
  match ← next with
  | .streamEnd => return some root
  | _ =>
    modify fun r => { r with handles := [] }
    directives steps false
    refuse

/-- The nodes of a text and the node of its document, if there is one. -/
def ofText? (cs : List Char) : Except Refusal (Graph × Option NodeId) := do
  let ts := tokens cs
  let steps := 4 * ts.found.size + 8
  let (root, reading) ← ((root? steps).run ts).run ⟨0, [], [], ⟨#[]⟩, 0⟩
  return (reading.graph, root)

end Document

end ApiModel.Yaml
