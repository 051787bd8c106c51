import ApiModel.Check.Basic
import ApiModel.Type.Check
import ApiModel.Type.Write

/-!
# Declarations

A declaration gives a type a name. Other types link to it by that name, and schemas by its
reference. A declaration depends on those that its type links to.

* `mem_dependencies_iff`: what a declaration depends on is declared and linked to by its type.
* `nodup_names_firsts`: the first declarations of the names have distinct names.
-/

namespace ApiModel

/-- A named type. -/
structure Declaration where
  /-- The name. -/
  name : String
  /-- The reference by which schemas refer to it. -/
  ref : String
  /-- The type. -/
  type : Ty
  /-- What it is for. -/
  description : Option String
  deriving Repr

namespace Declaration

/-- The declaration that a value describes. -/
def check (v : Value) : Checked Declaration :=
  if !v.isMap then .fail .notRecord
  else
    (Checked.both
      (Checked.both
        (v.part "name" (Value.missing "name") fun w _ => w.checkText)
        (v.part "ref" (Value.missing "ref") fun w _ => w.checkText))
      (Checked.both
        (v.part "type" (Value.missing "type") fun w _ => Ty.check Ty.maxHeight w)
        (v.part "description" (.ok none) fun w _ => w.checkTextOrNull))).map
      fun p => ⟨p.1.1, p.1.2, p.2.1, p.2.2⟩

/-- A declaration as a map. -/
def toValue (d : Declaration) : Value :=
  .record [("name", .text d.name), ("ref", .text d.ref), ("type", d.type.toValue),
    ("description", Value.ofText? d.description)]

/-- A declaration as a map, unless its type is too high. -/
def written (d : Declaration) : Except Failure Value := Ty.guarded [d.type] d.toValue

/-! ## Dependencies -/

/-- The names of declarations. -/
def names (ds : List Declaration) : List String := ds.map (·.name)

/-- The declared names that the type of a declaration links to, each once, in the order in which
they first occur. -/
def dependencies (declared : List String) (d : Declaration) : List String :=
  d.type.namedTypes.filter (· ∈ declared)

theorem mem_dependencies_iff {declared : List String} {d : Declaration} {n : String} :
    n ∈ d.dependencies declared ↔ n ∈ d.type.namedTypes ∧ n ∈ declared := by
  simp [dependencies]

/-- Each declared name with what its declaration depends on. A repeated name keeps its first place
and its last declaration. -/
def graph (ds : List Declaration) : List (String × List String) :=
  Keyed.ofList Prod.fst (ds.map fun d => (d.name, d.dependencies (names ds)))

/-! ## First declarations -/

/-- The first declaration of every name. -/
def firsts : List Declaration → List Declaration
  | [] => []
  | d :: ds => d :: (firsts ds).filter (·.name ≠ d.name)

theorem nodup_names_firsts (ds : List Declaration) : (names (firsts ds)).Nodup := by
  induction ds with
  | nil => simp [firsts, names]
  | cons d ds ih =>
    simp only [names, firsts, List.map_cons, List.nodup_cons] at ih ⊢
    refine ⟨?_, ih.sublist (List.Sublist.map _ List.filter_sublist)⟩
    simp

end Declaration

end ApiModel
