import ApiModel.Document.Version

/-!
# Names and references

A named schema or parameter is referred to as `#/`, the path of its container, `/` and its name, in
which a tilde is written `~0` and a slash `~1`. A `Layout` says where a version keeps its schemas
and its shared parameters.

* `unescape_escape`: an escaped name read back is the name.
* `not_mem_escape`: an escaped name holds no slash.
* `name_reference`: the name read off the reference to a name is that name, unless it is empty.
-/

namespace ApiModel.Reference

/-! ## Escaping -/

/-- One character of a name as it is written in a reference. -/
def escapeChar (c : Char) : List Char :=
  if c = '~' then ['~', '0'] else if c = '/' then ['~', '1'] else [c]

/-- A name as it is written in a reference. -/
def escape (cs : List Char) : List Char := cs.flatMap escapeChar

/-- The name that is written in a reference. A tilde before another character stands for itself. -/
def unescape : List Char → List Char
  | [] => []
  | '~' :: '1' :: r => '/' :: unescape r
  | '~' :: '0' :: r => '~' :: unescape r
  | c :: r => c :: unescape r

theorem unescape_escape (cs : List Char) : unescape (escape cs) = cs := by
  induction cs with
  | nil => rfl
  | cons c r ih =>
    simp only [escape, List.flatMap_cons] at ih ⊢
    by_cases h : c = '~'
    · simp [escapeChar, h, unescape, ih]
    · by_cases h' : c = '/'
      · simp [escapeChar, h', unescape, ih]
      · simp [escapeChar, h, h', unescape, ih]

theorem not_mem_escape (cs : List Char) : '/' ∉ escape cs := by
  intro h
  obtain ⟨c, _, hc⟩ := List.mem_flatMap.1 h
  unfold escapeChar at hc
  split at hc
  · simp at hc
  · split at hc
    · simp at hc
    · rename_i h
      simp only [List.mem_singleton] at hc
      exact h hc.symm

theorem escape_eq_nil_iff {cs : List Char} : escape cs = [] ↔ cs = [] := by
  cases cs with
  | nil => simp [escape]
  | cons c r =>
    simp only [escape, List.flatMap_cons, escapeChar]
    split
    · simp
    · split <;> simp

/-! ## References -/

/-- What a reference to a named thing in a container starts with. -/
def start (container : String) : List Char := '#' :: '/' :: container.toList ++ ['/']

/-- The reference to a name in a container. -/
def reference (container name : String) : String :=
  String.ofList (start container ++ escape name.toList)

/-- The name that a reference gives, if it leads to a named thing in the container. -/
def name? (container ref : String) : Option String :=
  match Text.after? (start container) ref.toList with
  | some segment =>
    if segment.isEmpty ∨ '/' ∈ segment then none else some (String.ofList (unescape segment))
  | none => none

/-- The name that a reference gives; the reference must be a text and lead into the container. -/
def nameOf (container : String) (ref : Value) : Except Failure String :=
  match ref with
  | .text s =>
    match name? container s with
    | some n => .ok n
    | none => .error (.malformedReference ref (some container))
  | _ => .error (.malformedReference ref (some container))

theorem name_reference {container n : String} (h : n ≠ "") :
    name? container (reference container n) = some n := by
  have hn : n.toList ≠ [] := by simpa using h
  unfold name? reference
  rw [String.toList_ofList, Text.after?_eq_some_iff.2 rfl]
  simp [escape_eq_nil_iff, hn, not_mem_escape, unescape_escape]

/-! ## Layouts -/

/-- Where a document keeps its named things. -/
structure Layout where
  /-- The path of the container of schemas. -/
  schemas : String
  /-- The path of the container of shared parameters. -/
  parameters : String
  deriving DecidableEq, Repr

/-- The layout of a version. -/
def Layout.of : Version → Layout
  | .openApi3 => ⟨"components/schemas", "components/parameters"⟩
  | .swagger2 => ⟨"definitions", "parameters"⟩

end ApiModel.Reference
