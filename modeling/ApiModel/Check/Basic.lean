import ApiModel.Check.Issue
import ApiModel.Text.Case
import ApiModel.Text.Quoted
import ApiModel.Value.Basic

/-!
# Checking values against declared forms

A check gives the content of a value or every issue it has. Parts of a form are checked
independently of each other and their issues are listed in the order of the parts. Scalars are
taken generously: a truth value may be spelled as a word or number, a whole number as a number
without a fraction.

* `both_eq_ok_iff`: two parts pass together exactly when each passes.
* `part_eq`: the outcome for a part of a map depends on that part alone.
* `each_eq_ok_iff`: a list passes exactly when its items pass, one by one.
-/

namespace ApiModel

/-- The outcome of a check: a content, or issues. -/
abbrev Checked (α : Type) := Except (List Issue) α

namespace Checked

variable {α β : Type}

/-- A single issue with a whole value. -/
def fail (c : Complaint) : Checked α := .error [⟨[], c⟩]

/-- The outcome for a part, as part of the outcome for the whole. -/
def within (steps : List Step) (r : Checked α) : Checked α := r.mapError (Issue.within steps)

/-- The outcomes of two parts together. -/
def both (x : Checked α) (y : Checked β) : Checked (α × β) :=
  match x, y with
  | .ok a, .ok b => .ok (a, b)
  | .ok _, .error es => .error es
  | .error es, .ok _ => .error es
  | .error es, .error fs => .error (es ++ fs)

theorem both_eq_ok_iff {x : Checked α} {y : Checked β} {a : α} {b : β} :
    both x y = .ok (a, b) ↔ x = .ok a ∧ y = .ok b := by
  cases x <;> cases y <;> simp [both]

/-- The outcomes of the items of a list together, each at its index. -/
def all (start : Nat) : List (Checked α) → Checked (List α)
  | [] => .ok []
  | r :: rs => (both (r.within [.index start]) (all (start + 1) rs)).map fun p => p.1 :: p.2

theorem within_eq_ok_iff {steps : List Step} {r : Checked α} {a : α} :
    r.within steps = .ok a ↔ r = .ok a := by
  cases r with
  | ok b => exact Iff.rfl
  | error es => exact ⟨nofun, nofun⟩

theorem all_eq_ok_iff {start : Nat} {rs : List (Checked α)} {as : List α} :
    all start rs = .ok as ↔ rs = as.map .ok := by
  induction rs generalizing start as with
  | nil => cases as <;> simp [all]
  | cons r rs ih =>
    constructor
    · intro h
      unfold all at h
      cases hb : both (r.within [.index start]) (all (start + 1) rs) with
      | error es => rw [hb] at h; cases h
      | ok p =>
        obtain ⟨a, bs⟩ := p
        rw [hb] at h
        cases h
        obtain ⟨h1, h2⟩ := both_eq_ok_iff.1 hb
        rw [within_eq_ok_iff.1 h1, ih.1 h2, List.map_cons]
    · intro h
      cases as with
      | nil => cases h
      | cons a as =>
        rw [List.map_cons, List.cons.injEq] at h
        unfold all
        rw [both_eq_ok_iff.2 ⟨within_eq_ok_iff.2 h.1, ih.2 h.2⟩]
        rfl

end Checked

namespace Value

variable {α : Type}

/-! ## Parts -/

/-- The outcome for the part of a map under a key, or another outcome if there is none. The check
may rely on the part being smaller than the map. -/
def part (v : Value) (key : String) (absent : Checked α)
    (check : (w : Value) → sizeOf w < sizeOf v → Checked α) : Checked α :=
  match h : v.get? key with
  | none => absent
  | some w => (check w (sizeOf_get?_lt h)).within [.name key]

theorem part_eq (v : Value) (key : String) (absent : Checked α) (f : Value → Checked α) :
    (v.part key absent fun w _ => f w) =
      match v.get? key with
      | none => absent
      | some w => (f w).within [.name key] := by
  unfold part
  split
  · rename_i h
    simp only [h]
  · rename_i w h
    simp only [h]

/-- The outcome when a part is missing. -/
def missing (key : String) : Checked α := .error [⟨[.name key], .missing⟩]

/-- The outcome for the items of a list. The check may rely on each being smaller than the list. -/
def each (items : List Value)
    (check : (w : Value) → sizeOf w < sizeOf items → Checked α) : Checked (List α) :=
  Checked.all 0 (items.attach.map fun ⟨w, h⟩ => check w (List.sizeOf_lt_of_mem h))

theorem each_eq_ok_iff {items : List Value} {check : Value → Checked α} {as : List α} :
    (each items fun w _ => check w) = .ok as ↔ items.map check = as.map .ok := by
  simp [each, Checked.all_eq_ok_iff]

/-- The outcome for the items of a sequence, which may be a list, a pair or a set. -/
def sequence (v : Value) (wrong : Complaint)
    (check : (w : Value) → sizeOf w < sizeOf v → Checked α) : Checked (List α) :=
  match v with
  | .list items => each items fun w h => check w (by simp only [Value.list.sizeOf_spec]; omega)
  | .pair a b =>
    Checked.all 0
      [check a (by simp only [Value.pair.sizeOf_spec]; omega),
        check b (by simp only [Value.pair.sizeOf_spec]; omega)]
  | .set members =>
    Checked.all 0 (members.attach.map fun ⟨m, h⟩ => check (.scalar m) (by
      have := List.sizeOf_lt_of_mem h
      simp only [Value.scalar.sizeOf_spec, Value.set.sizeOf_spec]
      omega))
  | _ => .fail wrong

/-! ## Scalars -/

/-- A text, possibly given by its bytes. -/
def checkText (v : Value) : Checked String :=
  match v with
  | .text s => .ok s
  | .scalar (.bytes bs) =>
    match Text.decode? bs with
    | some s => .ok s
    | none => .fail .textEncoding
  | _ => .fail .notText

/-- A text that may be left out. -/
def checkTextOrNull (v : Value) : Checked (Option String) :=
  match v with
  | .null => .ok none
  | v => (checkText v).map some

/-- The words for a truth value. -/
def truthWords : List (String × Bool) :=
  [("0", false), ("off", false), ("f", false), ("false", false), ("n", false), ("no", false),
    ("1", true), ("on", true), ("t", true), ("true", true), ("y", true), ("yes", true)]

/-- Whether a whole number fits into a word of 64 bits. -/
def isWord (n : Int) : Bool := -9223372036854775808 ≤ n && n < 9223372036854775808

/-- Whether a whole number fits into a word and is not the least that does. A number with a point is
taken for a whole one only within these bounds. -/
def isInnerWord (n : Int) : Bool := -9223372036854775808 < n && n < 9223372036854775808

/-- The truth value that a whole number stands for. Beyond the size of a word there is none that
it could stand for. -/
def truthOfInt (n : Int) : Checked Bool :=
  if n = 0 then .ok false
  else if n = 1 then .ok true
  else .fail (if isWord n then .truthSpelling else .notTruth)

/-- The truth value that a word stands for. -/
def truthOfWord (s : String) : Checked Bool :=
  match truthWords.lookup (Text.lower s) with
  | some b => .ok b
  | none => .fail .truthSpelling

/-- A truth value, possibly spelled as a word or as zero or one. -/
def checkTruth (v : Value) : Checked Bool :=
  match v with
  | .bool b => .ok b
  | .int n => truthOfInt n
  | .float x =>
    match x.toInt? with
    | some n => if isInnerWord n then truthOfInt n else .fail .notTruth
    | none => .fail .notTruth
  | .text s => truthOfWord s
  | .scalar (.bytes bs) =>
    match Text.decode? bs with
    | some s => truthOfWord s
    | none => .fail .truthSpelling
  | _ => .fail .notTruth

/-- A whole number, possibly given as a truth value or as a number without a fraction that fits
into a word. -/
def checkWhole (v : Value) : Checked Int :=
  match v with
  | .int n => .ok n
  | .bool b => .ok (if b then 1 else 0)
  | .float x =>
    match x.toInt? with
    | some n => if isInnerWord n then .ok n else .fail .tooFar
    | none => .fail (if x.isFinite then .fractional else .notFinite)
  | _ => .fail .notWhole

end Value

end ApiModel
