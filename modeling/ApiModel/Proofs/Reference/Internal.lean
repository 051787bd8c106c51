import ApiModel.Proofs.Reference.Pointer
import ApiModel.Proofs.Schema.Parts
import ApiModel.Proofs.Trace
import ApiModel.Reference.Internal

/-!
# What the check of references goes over

The check goes down a value by its keys. What it does with the value under a key depends on the key
and on whether the keys around it are names. A value passes if the check raises nothing in it; the
parts of a value that passes pass, those that are data left out, and so does what a reference leads
to, if the check takes the way that the reference takes.

* `passes_map_iff`: a map passes if its own reference is inner and what is under its keys passes.
* `Passes.child`: the schemas inside a schema that passes pass.
* `Passes.find`: a reference whose way is open leads to a value that passes.
-/

namespace ApiModel.Reference

variable {document v w : Value} {names names' : Bool} {key : Scalar} {ref : String}

/-- A reference is inner if it is a text that starts with `#/`. -/
def IsInner (ref : Value) : Prop := ∃ s, ref = .text s ∧ inside.isPrefixOf s.toList = true

/-- The check raises nothing in a value, whose keys may be names. -/
def Passes (keysAreNames : Bool) (v : Value) : Prop := checkInside keysAreNames v = .ok ()

/-! ## Keys -/

/-- Whether the keys of what stands under a key are names; nothing if it is not checked. -/
def below (keysAreNames : Bool) (key : Scalar) : Option Bool :=
  if keysAreNames then some false
  else if isExample key then none
  else some (key == .text "properties")

/-- The keys that change what the check does. -/
def markedKeys : List String := ["example", "examples", "properties"]

theorem below_of_not_marked (h : ∀ k ∈ markedKeys, key ≠ .text k) :
    below names key = some false := by
  have hexample : key ≠ .text "example" := h _ (by decide)
  have hexamples : key ≠ .text "examples" := h _ (by decide)
  have hproperties : key ≠ .text "properties" := h _ (by decide)
  unfold below isExample
  cases names <;> simp [hexample, hexamples, hproperties]

theorem checkEntries_eq_ok_iff {es : Entries} :
    checkEntries names es = .ok () ↔
      ∀ e ∈ es, ∀ names', below names e.1 = some names' → Passes names' e.2 := by
  induction es with
  | nil =>
    rw [checkEntries]
    exact ⟨fun _ => nofun, fun _ => rfl⟩
  | cons e es ih =>
    obtain ⟨k, v⟩ := e
    rw [checkEntries, bind_eq_ok_iff, List.forall_mem_cons, ← ih]
    have hown : (if names then checkInside false v
        else if isExample k then .ok () else checkInside (k == .text "properties") v) = .ok () ↔
        ∀ names', below names k = some names' → Passes names' v := by
      unfold below Passes
      split
      · simp
      · split <;> simp
    rw [← hown]
    exact ⟨fun ⟨_, hrest, h⟩ => ⟨h, hrest⟩, fun ⟨h, hrest⟩ => ⟨(), hrest, h⟩⟩

theorem checkItems_eq_ok_iff {vs : List Value} :
    checkItems vs = .ok () ↔ ∀ v ∈ vs, Passes false v := by
  induction vs with
  | nil =>
    rw [checkItems]
    exact ⟨fun _ => nofun, fun _ => rfl⟩
  | cons v vs ih =>
    rw [checkItems, bind_eq_ok_iff, List.forall_mem_cons, ← ih]
    exact ⟨fun ⟨_, hrest, h⟩ => ⟨h, hrest⟩, fun ⟨h, hrest⟩ => ⟨(), hrest, h⟩⟩

/-! ## Values that pass -/

theorem passes_list_iff {vs : List Value} : Passes names (.list vs) ↔ ∀ v ∈ vs, Passes false v := by
  rw [Passes, checkInside, checkItems_eq_ok_iff]

theorem passes_map_iff {es : Entries} :
    Passes names (.map es) ↔
      (names = false → ∀ r, (Value.map es).get? "$ref" = some r → IsInner r) ∧
      ∀ e ∈ es, ∀ names', below names e.1 = some names' → Passes names' e.2 := by
  rw [Passes, checkInside, ← checkEntries_eq_ok_iff]
  cases names with
  | true =>
    rw [Bool.not_true, if_neg Bool.false_ne_true]
    exact ⟨fun h => ⟨nofun, h⟩, And.right⟩
  | false =>
    rw [Bool.not_false, if_pos rfl, bind_eq_ok_iff]
    constructor
    · rintro ⟨_, hown, hrest⟩
      exact ⟨fun _ => checkMap_ok_iff.1 hown, hrest⟩
    · rintro ⟨hown, hrest⟩
      exact ⟨(), checkMap_ok_iff.2 (hown rfl), hrest⟩

/-- The reference of a value that passes is inner. -/
theorem Passes.isInner {r : Value} (h : Passes false v) (hr : v.get? "$ref" = some r) :
    IsInner r := by
  obtain ⟨es, rfl, -⟩ := Value.mem_of_get? hr
  exact (passes_map_iff.1 h).1 rfl r hr

theorem Passes.entry {es : Entries} (h : Passes names (.map es)) (hm : (key, w) ∈ es)
    (hb : below names key = some names') : Passes names' w :=
  (passes_map_iff.1 h).2 _ hm names' hb

theorem Passes.get? {k : String} (h : Passes names v) (hw : v.get? k = some w)
    (hb : below names (.text k) = some names') : Passes names' w := by
  obtain ⟨es, rfl, hm⟩ := Value.mem_of_get? hw
  exact h.entry hm hb

theorem Passes.getD {k : String} (h : Passes names v)
    (hb : below names (.text k) = some names') : Passes names' (v.getD k) := by
  cases hw : v.get? k with
  | some w =>
    rw [Value.getD_of_get? hw]
    exact h.get? hw hb
  | none =>
    rw [Value.getD_of_get?_eq_none hw]
    exact rfl

/-! ## Schemas -/

/-- The properties of a schema are checked under their names, whatever these are. -/
theorem Passes.property {s : Value} (h : Passes false s) {e : Scalar × Value}
    (he : e ∈ Schema.properties s) : Passes false e.2 := by
  unfold Schema.properties at he
  split at he
  · rename_i es hes
    have hproperties : Passes true (s.getD "properties") := h.getD (by decide)
    rw [hes] at hproperties
    exact hproperties.entry he rfl
  · cases he

/-- The schemas inside a schema pass, unless the branches of a composition are a pair. -/
theorem Passes.child {s c : Value} (h : Passes false s)
    (hpair : ∀ a b, s.get? "allOf" ≠ some (.pair a b)) (hc : c ∈ Schema.children s) :
    Passes false c := by
  unfold Schema.children at hc
  split at hc
  · unfold Schema.items at hc
    split at hc
    · cases hc
    · rw [List.mem_singleton.1 hc]
      exact h.getD (by decide)
  · split at hc
    · obtain ⟨e, he, rfl⟩ := List.mem_map.1 hc
      exact h.property he
    · split at hc
      · unfold Schema.branches at hc
        split at hc
        · rename_i parts hparts
          have hall : Passes false (s.getD "allOf") := h.getD (by decide)
          rw [hparts] at hall
          exact passes_list_iff.1 hall c hc
        · rename_i a b hab
          exact absurd (Value.get?_of_getD hab nofun) (hpair a b)
        · cases hc
      · cases hc

/-! ## Following a reference -/

/-- Whether the keys are names where segments lead; nothing if the check does not go there. -/
def modeAt (keysAreNames : Bool) : List (List Char) → Option Bool
  | [] => some keysAreNames
  | s :: ss => (below keysAreNames (.text (String.ofList (unescape s)))).bind (modeAt · ss)

/-- Whether the check goes where a reference leads, and takes the keys there for no names. -/
def isOpen (ref : String) : Bool :=
  (Text.after? inside ref.toList).all fun path =>
    modeAt false (Text.pieces '/' path) == some false

/-- An index is no key that changes what the check does. -/
theorem below_of_index {cs : List Char} (h : (Text.readInteger? 10 cs).isSome = true)
    (hb : below names (.text (String.ofList cs)) = some names') : names' = false := by
  have hmarked : ∀ k ∈ markedKeys, Scalar.text (String.ofList cs) ≠ .text k := by
    intro k hk heq
    rw [Scalar.text.injEq] at heq
    have hcs : cs = k.toList := by rw [← heq, String.toList_ofList]
    have hnone : ∀ k ∈ markedKeys, Text.readInteger? 10 k.toList = none := by decide
    rw [hcs, hnone k hk] at h
    cases h
  rw [below_of_not_marked hmarked] at hb
  exact (Option.some.inj hb).symm

theorem Passes.step {segment : List Char} (h : Passes names v)
    (hs : step ref v segment = .ok w)
    (hb : below names (.text (String.ofList (unescape segment))) = some names') :
    Passes names' w := by
  cases v with
  | map es =>
    obtain ⟨before, after, rfl, -⟩ := List.lookup_eq_some_iff.1 (step_map_eq_ok_iff.1 hs)
    exact h.entry (List.mem_append_right _ List.mem_cons_self) hb
  | list vs =>
    obtain ⟨i, hi, hw⟩ := Option.bind_eq_some_iff.1 (step_list_eq_ok_iff.1 hs)
    obtain rfl := below_of_index (by rw [hi]; rfl) hb
    exact passes_list_iff.1 h w (mem_of_itemAt? hw)
  | _ => cases hs

theorem Passes.walk {segments : List (List Char)} (h : Passes names v)
    (hw : walk ref v segments = .ok w) (hm : modeAt names segments = some names') :
    Passes names' w := by
  induction segments generalizing v names with
  | nil =>
    cases hw
    obtain rfl := Option.some.inj hm
    exact h
  | cons s ss ih =>
    unfold Reference.walk at hw
    obtain ⟨mode, hb, hm⟩ := Option.bind_eq_some_iff.1 hm
    split at hw
    · rename_i u hu
      exact ih (h.step hu hb) hw hm
    · cases hw

/-- What a reference with an open way leads to in a document that passes, passes. -/
theorem Passes.find (h : Passes false document) (hopen : isOpen ref = true)
    (hf : find document ref = .ok w) : Passes false w := by
  unfold Reference.find at hf
  split at hf
  · rename_i path hpath
    rw [isOpen, hpath, Option.all_some, beq_iff_eq] at hopen
    exact h.walk hf hopen
  · cases hf

end ApiModel.Reference
