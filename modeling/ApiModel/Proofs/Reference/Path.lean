import ApiModel.Proofs.Reference.Failing
import ApiModel.Proofs.Text.Integer
import ApiModel.Proofs.Value.Sayable

/-!
# Paths and the references that write them

A path leads from a value into its parts, step by step: to what a map has under a text, or to the
item of a list at an index. A reference writes the path down, with the keys escaped and the indices
in decimal. Following that reference leads where the path does, and wherever a reference leads, a
path leads there too.

Results:

* `step_written`: one step that is written down and followed.
* `find_written`: the reference of a path leads to where the path leads.
* `exists_path_of_find`: what a reference leads to stands at the end of a path.
* `writing_undone`: both together, with how references fail.
-/

namespace ApiModel

/-! ## Failures on the way -/

namespace Failure

variable {e : Failure}

/-- A failure is about the way through a document and not about a schema in it, and can be put into
words. -/
def IsLost (e : Failure) : Prop := e.category? = some .document ∧ e.surfaced = e

theorem IsDeadEnd.isLost (h : e.IsDeadEnd) : e.IsLost := by
  cases e with
  | referenceKey | referenceIndex | referenceInto | circularReference =>
    exact ⟨rfl, surfaced_of_not_quotes rfl⟩
  | _ => cases h

end Failure

/-! ## Paths -/

namespace Value

/-- A step from a value to one of its parts. -/
inductive PathStep where
  /-- To what a map has under a text. -/
  | key (name : String)
  /-- To the item of a list at an index that counts from the start. -/
  | index (i : Nat)
  deriving DecidableEq, Repr

/-- The part of a value to which a step leads, if there is one. -/
def part? : Value → PathStep → Option Value
  | .map es, .key name => es.lookup (.text name)
  | .list vs, .index i => vs[i]?
  | _, _ => none

/-- The value at the end of a path, if all its steps lead somewhere. -/
def at? (v : Value) : List PathStep → Option Value
  | [] => some v
  | s :: path => (v.part? s).bind fun w => w.at? path

variable {v w : Value} {s : PathStep} {path : List PathStep}

theorem at?_cons_eq_some_iff :
    v.at? (s :: path) = some w ↔ ∃ u, v.part? s = some u ∧ u.at? path = some w :=
  Option.bind_eq_some_iff

end Value

namespace Reference

open Value (PathStep)

variable {document v w : Value} {ref : String} {s : PathStep} {path : List PathStep}

/-! ## Writing a path -/

/-- A step as it stands in a reference: the key is escaped, and the index is decimal. -/
def written : PathStep → List Char
  | .key name => escape name.toList
  | .index i => Nat.toDigits 10 i

/-- The reference that writes a path: `#/` and the steps with slashes between them. -/
def writtenPath (path : List PathStep) : String :=
  String.ofList (inside ++ Text.join '/' (path.map written))

/-- A step can be written down. An index has no written form if it has more digits than a number
may have in a text. -/
def IsWritable : PathStep → Prop
  | .key _ => True
  | .index i => (Value.int i).isSayable = true

theorem digit_of_mem_toDigits {c : Char} {n : Nat} (h : c ∈ Nat.toDigits 10 n) :
    c ≠ '~' ∧ c ≠ '/' := by
  have hdigit : c.isDigit = true := Nat.isDigit_of_mem_toDigits (by omega) (by omega) h
  constructor
  · rintro rfl
    exact absurd hdigit (by decide)
  · rintro rfl
    exact absurd hdigit (by decide)

theorem not_mem_written (s : PathStep) : '/' ∉ written s := by
  cases s with
  | key name => exact not_mem_escape name.toList
  | index i => exact fun h => (digit_of_mem_toDigits h).2 rfl

/-! ## Following what was written -/

/-- What holds no tilde is read as it is. -/
theorem unescape_of_not_mem {cs : List Char} (h : '~' ∉ cs) : unescape cs = cs := by
  induction cs with
  | nil => rfl
  | cons c cs ih =>
    obtain ⟨hc, hcs⟩ := not_or.1 (mt List.mem_cons.2 h)
    rw [unescape, ih hcs]
    · rintro r rfl -
      exact hc rfl
    · rintro r rfl -
      exact hc rfl

theorem itemAt?_natCast (vs : List Value) (i : Nat) : itemAt? vs i = vs[i]? := by
  unfold itemAt?
  rw [if_pos (Int.natCast_nonneg i), Int.toNat_natCast]

/-- A step that is written down and followed leads to its part. -/
theorem step_written (hs : IsWritable s) (h : v.part? s = some w) :
    step ref v (written s) = .ok w := by
  cases s with
  | key name =>
    cases v with
    | map es =>
      rw [step_map_eq_ok_iff, written, unescape_escape, String.ofList_toList]
      exact h
    | _ => cases h
  | index i =>
    cases v with
    | list vs =>
      rw [IsWritable, Value.isSayable_int_iff, Int.natAbs_natCast] at hs
      have hplain : unescape (Nat.toDigits 10 i) = Nat.toDigits 10 i :=
        unescape_of_not_mem fun hm => (digit_of_mem_toDigits hm).1 rfl
      rw [step_list_eq_ok_iff, written, hplain, Text.readInteger?_toDigits hs, Option.bind_some,
        itemAt?_natCast]
      exact h
    | _ => cases h

theorem walk_written (hpath : ∀ s ∈ path, IsWritable s) (h : v.at? path = some w) :
    walk ref v (path.map written) = .ok w := by
  induction path generalizing v with
  | nil => rw [List.map_nil, walk, Option.some.inj h]
  | cons s path ih =>
    obtain ⟨hs, hrest⟩ := List.forall_mem_cons.1 hpath
    obtain ⟨u, hu, hw⟩ := Value.at?_cons_eq_some_iff.1 h
    rw [List.map_cons, walk, step_written hs hu]
    exact ih hrest hw

/-- The reference of a path is cut into its steps again, and leads to where the path leads. -/
theorem find_written (hne : path ≠ []) (hpath : ∀ s ∈ path, IsWritable s)
    (h : document.at? path = some v) : find document (writtenPath path) = .ok v := by
  have hpieces : Text.pieces '/' (Text.join '/' (path.map written)) = path.map written := by
    refine Text.pieces_join (by simpa using hne) fun cs hcs => ?_
    obtain ⟨s, -, rfl⟩ := List.mem_map.1 hcs
    exact not_mem_written s
  unfold find writtenPath
  rw [String.toList_ofList, Text.after?_eq_some_iff.2 rfl]
  dsimp only
  rw [hpieces]
  exact walk_written hpath h

/-! ## Paths of references -/

theorem exists_step_of_itemAt? {vs : List Value} {i : Int} (h : itemAt? vs i = some w) :
    ∃ s, (Value.list vs).part? s = some w := by
  unfold itemAt? at h
  split at h
  · exact ⟨.index i.toNat, h⟩
  · split at h
    · exact ⟨.index (vs.length - i.natAbs), h⟩
    · cases h

/-- Where a segment leads, a step leads. -/
theorem exists_step {segment : List Char} (h : step ref v segment = .ok w) :
    ∃ s, v.part? s = some w := by
  cases v with
  | map es => exact ⟨.key (String.ofList (unescape segment)), step_map_eq_ok_iff.1 h⟩
  | list vs =>
    obtain ⟨i, -, hw⟩ := Option.bind_eq_some_iff.1 (step_list_eq_ok_iff.1 h)
    exact exists_step_of_itemAt? hw
  | _ => cases h

theorem exists_path_of_walk {segments : List (List Char)} (h : walk ref v segments = .ok w) :
    ∃ path, v.at? path = some w := by
  induction segments generalizing v with
  | nil =>
    cases h
    exact ⟨[], rfl⟩
  | cons segment segments ih =>
    unfold walk at h
    split at h
    · rename_i u hu
      obtain ⟨s, hs⟩ := exists_step hu
      obtain ⟨path, hpath⟩ := ih h
      exact ⟨s :: path, Value.at?_cons_eq_some_iff.2 ⟨u, hs, hpath⟩⟩
    · cases h

/-- What a reference leads to is a part of the document. -/
theorem exists_path_of_find (h : find document ref = .ok v) :
    ∃ path, document.at? path = some v := by
  unfold find at h
  split at h
  · exact exists_path_of_walk h
  · cases h

/-! ## How references fail -/

/-- A reference that leads to no part of the document is lost, and fails in no other way. -/
theorem isLost_find : FailsOnly Failure.IsLost (find document ref) := by
  unfold find
  split
  · exact failsOnly_walk.imp fun _ => Failure.IsDeadEnd.isLost
  · exact .error ⟨rfl, Failure.surfaced_of_not_quotes rfl⟩

/-- Following a reference undoes writing it, and every reference leads to a part of the document or
is lost. -/
theorem writing_undone (document : Value) :
    (∀ path v, path ≠ [] → (∀ s ∈ path, IsWritable s) → document.at? path = some v →
      find document (writtenPath path) = .ok v) ∧
    ∀ ref, (∃ v path, find document ref = .ok v ∧ document.at? path = some v) ∨
      ∃ e, find document ref = .error e ∧ e.IsLost := by
  refine ⟨fun path v hne hpath h => find_written hne hpath h, fun ref => ?_⟩
  cases hf : find document ref with
  | ok v =>
    obtain ⟨path, hpath⟩ := exists_path_of_find hf
    exact Or.inl ⟨v, path, rfl, hpath⟩
  | error e => exact Or.inr ⟨e, rfl, isLost_find e hf⟩

/-- A document whose keys hold what references escape, or look like something else. -/
def almanac : Value :=
  .record [("a/b", .list [.null, .record [("~1", .record [("", .list [.int 7])]), ("0", .null)]])]

/-- A path through a slash, an index, an escape that is none, and an empty key. -/
def almanacPath : List PathStep := [.key "a/b", .index 1, .key "~1", .key "", .index 0]

/-- The path of the almanac is written with its escapes, and followed to its end. -/
theorem writing_undone_almanac :
    writtenPath almanacPath = "#/a~1b/1/~01//0" ∧
      find almanac "#/a~1b/1/~01//0" = .ok (.int 7) := by
  have hwritten : writtenPath almanacPath = "#/a~1b/1/~01//0" := by
    rw [← String.toList_inj, writtenPath, String.toList_ofList]
    decide
  have hpath : ∀ s ∈ almanacPath, IsWritable s := by
    simp only [almanacPath, List.forall_mem_cons, List.not_mem_nil, false_imp_iff, implies_true]
    exact ⟨trivial, Value.isSayable_byte 1, trivial, trivial, Value.isSayable_byte 0, trivial⟩
  refine ⟨hwritten, ?_⟩
  rw [← hwritten]
  exact (writing_undone almanac).1 almanacPath (.int 7) (by decide) hpath rfl

end Reference

end ApiModel
