import ApiModel.Failure
import ApiModel.Proofs.Reference.Internal

/-!
# The search for references

The references of a document are searched for by a loop. It keeps a stack of what is still to be
looked at, each value with whether its keys are names, takes off the one put on last, inspects it
and puts its parts on. So every value is inspected before its parts, and of these the last first. The
check that goes down the document recursively does the same: it inspects the same values in the same
order, and ends with the first that is flawed.

Results:

* `Visit.check_eq`: the check is an inspection of one value after the other.
* `Visit.searchWithin_eq`: so is the loop, in one round for each of them.
* `mem_all_iff`: which values are inspected.
* `check_as_search`: when the check fails, and how.
-/

namespace ApiModel

namespace Reference

/-! ## Visits -/

/-- A visit to a value, the keys of which may be names. -/
structure Visit where
  /-- Whether the keys of the value are names. -/
  keysAreNames : Bool
  /-- The value. -/
  value : Value

namespace Visit

variable {n m : Visit} {e : Failure}

/-- The reference of a value is looked at if the value is a map and its keys are no names. -/
def inspect (n : Visit) : Except Failure Unit :=
  match n.value with
  | .map es => if n.keysAreNames then .ok () else checkMap es
  | _ => .ok ()

/-- The visits that a visit leads to, the last part of the value first. What stands under a key
that marks data is not visited. -/
def parts (n : Visit) : List Visit :=
  match n.value with
  | .map es => (es.filterMap fun e => (below n.keysAreNames e.1).map (⟨·, e.2⟩)).reverse
  | .list vs => (vs.map (⟨false, ·⟩)).reverse
  | _ => []

theorem sizeOf_lt_of_mem_parts (h : m ∈ n.parts) : sizeOf m.value < sizeOf n.value := by
  unfold parts at h
  split at h
  · rename_i es hes
    obtain ⟨⟨k, v⟩, he, hm⟩ := List.mem_filterMap.1 (List.mem_reverse.1 h)
    obtain ⟨names, -, rfl⟩ := Option.map_eq_some_iff.1 hm
    have := Value.sizeOf_lt_of_mem_entries he
    rw [hes, Value.map.sizeOf_spec]
    show sizeOf v < _
    omega
  · rename_i vs hvs
    obtain ⟨v, hv, rfl⟩ := List.mem_map.1 (List.mem_reverse.1 h)
    have := List.sizeOf_lt_of_mem hv
    rw [hvs, Value.list.sizeOf_spec]
    show sizeOf v < _
    omega
  · cases h

/-- What holds of a visit whenever it holds of those that it leads to, holds of every visit. -/
theorem induction_parts {P : Visit → Prop} (step : ∀ n, (∀ m ∈ n.parts, P m) → P n) (n : Visit) :
    P n := by
  induction hsize : sizeOf n.value using Nat.strongRecOn generalizing n with
  | _ size ih =>
    refine step n fun m hm => ih (sizeOf m.value) ?_ m rfl
    rw [← hsize]
    exact sizeOf_lt_of_mem_parts hm

/-- A visit and all that it leads to, each before its parts. -/
def all (n : Visit) : List Visit :=
  n :: n.parts.attach.flatMap fun m => all m.1
termination_by sizeOf n.value
decreasing_by exact sizeOf_lt_of_mem_parts m.2

theorem all_eq (n : Visit) : n.all = n :: n.parts.flatMap all := by
  rw [all, List.flatMap_subtype fun m _ => rfl, List.unattach_attach]

/-- What is visited on from a visit is visited with it. -/
theorem all_subset_of_mem (h : m ∈ n.all) : m.all ⊆ n.all := by
  induction n using induction_parts with
  | step n ih =>
    rw [all_eq n] at h ⊢
    rcases List.mem_cons.1 h with rfl | h
    · rw [← all_eq m]
      exact List.Subset.refl _
    · obtain ⟨p, hp, hm⟩ := List.mem_flatMap.1 h
      intro w hw
      exact List.mem_cons_of_mem _ (List.mem_flatMap.2 ⟨p, hp, ih p hp hm hw⟩)

theorem mem_all_of_mem_parts {r : Visit} (h : n ∈ r.all) (hm : m ∈ n.parts) : m ∈ r.all := by
  refine all_subset_of_mem h ?_
  rw [all_eq]
  refine List.mem_cons_of_mem _ (List.mem_flatMap.2 ⟨m, hm, ?_⟩)
  rw [all_eq]
  exact List.mem_cons_self

/-! ## The check as a walk -/

/-- The check of what is visited. -/
def check (n : Visit) : Except Failure Unit := checkInside n.keysAreNames n.value

theorem checkEntries_eq (names : Bool) (es : Entries) :
    checkEntries names es = forM (Visit.parts ⟨names, .map es⟩) check := by
  induction es with
  | nil => rfl
  | cons e es ih =>
    obtain ⟨k, v⟩ := e
    have hparts : Visit.parts ⟨names, .map ((k, v) :: es)⟩ =
        Visit.parts ⟨names, .map es⟩ ++ ((below names k).map (Visit.mk · v)).toList := by
      unfold parts
      cases hb : below names k <;> simp [hb]
    rw [checkEntries, ih, hparts, List.forM_append]
    congr 1
    funext _
    unfold below
    cases names with
    | true => exact (bind_pure_unit).symm
    | false => cases isExample k with
      | true => rfl
      | false => exact (bind_pure_unit).symm

theorem checkItems_eq (names : Bool) (vs : List Value) :
    checkItems vs = forM (Visit.parts ⟨names, .list vs⟩) check := by
  induction vs with
  | nil => rfl
  | cons v vs ih =>
    have hparts : Visit.parts ⟨names, .list (v :: vs)⟩ =
        Visit.parts ⟨names, .list vs⟩ ++ [⟨false, v⟩] := by simp [parts]
    rw [checkItems, ih, hparts, List.forM_append]
    congr 1
    funext _
    exact (bind_pure_unit).symm

/-- A value is inspected, and then its parts are checked, the last first. -/
theorem check_step (n : Visit) : n.check = n.inspect >>= fun _ => forM n.parts check := by
  obtain ⟨names, v⟩ := n
  cases v with
  | map es =>
    rw [check, checkInside, checkEntries_eq]
    cases names <;> rfl
  | list vs => rw [check, checkInside, checkItems_eq names]; rfl
  | _ => rfl

/-- The check inspects one value after the other. -/
theorem check_eq (n : Visit) : n.check = forM n.all inspect := by
  induction n using induction_parts with
  | step n ih =>
    rw [check_step, all_eq, List.forM_cons, forM_flatMap, forM_congr ih]

/-! ## The search as a loop -/

/-- What the loop ends with, in some rounds; nothing if it takes more. In a round the visit on top
of the stack is taken off, the value is inspected and its parts are put on, the last on top. -/
def searchWithin : Nat → List Visit → Option (Except Failure Unit)
  | _, [] => some (.ok ())
  | 0, _ :: _ => none
  | rounds + 1, n :: rest =>
    match n.inspect with
    | .ok () => searchWithin rounds (n.parts ++ rest)
    | .error e => some (.error e)

/-- The loop inspects what is visited from the stack, one value in a round. -/
theorem searchWithin_eq {rounds : Nat} {stack : List Visit}
    (h : (stack.flatMap all).length ≤ rounds) :
    searchWithin rounds stack = some (forM (stack.flatMap all) inspect) := by
  induction rounds generalizing stack with
  | zero =>
    cases stack with
    | nil => rfl
    | cons n rest =>
      rw [List.flatMap_cons, all_eq, List.cons_append, List.length_cons] at h
      omega
  | succ rounds ih =>
    cases stack with
    | nil => rfl
    | cons n rest =>
      -- taking the visit off and putting its parts on removes it from what is still to be visited
      have hpending : (n :: rest).flatMap all = n :: (n.parts ++ rest).flatMap all := by
        rw [List.flatMap_cons, all_eq, List.cons_append, List.flatMap_append]
      rw [hpending, List.length_cons] at h
      rw [hpending, List.forM_cons, searchWithin]
      cases n.inspect with
      | error e => rfl
      | ok _ => exact ih (by omega)

/-- The loop that starts with one value ends like the check of it. -/
theorem searchWithin_singleton (n : Visit) :
    searchWithin n.all.length [n] = some n.check := by
  have hall : [n].flatMap all = n.all := List.flatMap_singleton ..
  rw [searchWithin_eq (Nat.le_of_eq (congrArg List.length hall)), hall, check_eq]

end Visit

/-! ## What is searched, and what is wrong with it -/

/-- A value is searched in a document, with its keys taken for names or not. -/
inductive Searched (document : Value) : Bool → Value → Prop where
  /-- The document is searched. -/
  | root : Searched document false document
  /-- So is what stands under a key that is no name, unless it is data. The keys of what stands
  under `properties` are names. -/
  | entry {es : Entries} {key : Scalar} {v : Value} (h : Searched document false (.map es))
      (hm : (key, v) ∈ es) (hexample : key ≠ .text "example") (hexamples : key ≠ .text "examples") :
      Searched document (key == .text "properties") v
  /-- So is what stands under a name. -/
  | named {es : Entries} {name : Scalar} {v : Value} (h : Searched document true (.map es))
      (hm : (name, v) ∈ es) : Searched document false v
  /-- So are the items of a list. -/
  | item {names : Bool} {vs : List Value} {v : Value} (h : Searched document names (.list vs))
      (hm : v ∈ vs) : Searched document false v

/-- What is wrong with a map that is searched, its keys being no names: its reference is no text, or
leads out of the document. -/
inductive Flaw : Visit → Failure → Prop where
  /-- The reference is no text. -/
  | notText {es : Entries} {ref : Value} (hr : (Value.map es).get? "$ref" = some ref)
      (hne : ∀ s, ref ≠ .text s) : Flaw ⟨false, .map es⟩ (.malformedReference ref none)
  /-- The reference does not start with `#/`. -/
  | outside {es : Entries} {ref : String} (hr : (Value.map es).get? "$ref" = some (.text ref))
      (hout : ¬ inside <+: ref.toList) : Flaw ⟨false, .map es⟩ (.externalReference ref)

/-- The first flawed one of several visits fails. -/
def FirstFlaw (visits : List Visit) (e : Failure) : Prop :=
  ∃ before n after, visits = before ++ n :: after ∧ (∀ b ∈ before, ∀ e, ¬ Flaw b e) ∧ Flaw n e

variable {document : Value} {n m : Visit} {e : Failure}

theorem checkMap_eq_error_iff {es : Entries} :
    checkMap es = .error e ↔ Flaw ⟨false, .map es⟩ e := by
  unfold checkMap
  constructor
  · intro h
    split at h
    · cases h
    · rename_i ref hr
      split at h
      · cases h
      · rename_i hout
        cases h
        exact .outside hr fun hin => hout (List.isPrefixOf_iff_prefix.2 hin)
    · rename_i ref hne hr
      cases h
      exact .notText hr fun s hs => hne s hs
  · intro h
    cases h with
    | notText hr hne =>
      rw [Value.get?_map] at hr
      split
      · cases hr.symm.trans ‹_›
      · cases hr.symm.trans ‹_›
        exact absurd rfl (hne _)
      · cases hr.symm.trans ‹_›
        rfl
    | outside hr hout =>
      rw [Value.get?_map] at hr
      rw [hr]
      exact if_neg fun hin => hout (List.isPrefixOf_iff_prefix.1 hin)

/-- An inspection fails with the flaw that there is. -/
theorem inspect_eq_error_iff : n.inspect = .error e ↔ Flaw n e := by
  obtain ⟨names, v⟩ := n
  cases v with
  | map es =>
    cases names with
    | true => exact ⟨nofun, nofun⟩
    | false => exact checkMap_eq_error_iff
  | _ => exact ⟨nofun, nofun⟩

theorem inspect_eq_ok_iff : n.inspect = .ok () ↔ ∀ e, ¬ Flaw n e := by
  simp only [← inspect_eq_error_iff]
  cases n.inspect with
  | ok _ => exact ⟨fun _ => nofun, fun _ => rfl⟩
  | error e => exact ⟨nofun, fun h => absurd rfl (h e)⟩

/-- The check fails with the first flaw that it meets. -/
theorem check_eq_error_iff : n.check = .error e ↔ FirstFlaw n.all e := by
  rw [Visit.check_eq, forM_eq_error_iff]
  simp only [inspect_eq_ok_iff, inspect_eq_error_iff]
  rfl

theorem mem_parts_map_iff {names : Bool} {es : Entries} :
    m ∈ Visit.parts ⟨names, .map es⟩ ↔
      ∃ key, (key, m.value) ∈ es ∧ below names key = some m.keysAreNames := by
  obtain ⟨names', v⟩ := m
  simp only [Visit.parts, List.mem_reverse, List.mem_filterMap, Option.map_eq_some_iff,
    Visit.mk.injEq, Prod.exists]
  constructor
  · rintro ⟨key, w, hm, names'', hb, rfl, rfl⟩
    exact ⟨key, hm, hb⟩
  · rintro ⟨key, hm, hb⟩
    exact ⟨key, v, hm, names', hb, rfl, rfl⟩

theorem mem_parts_list_iff {names : Bool} {vs : List Value} :
    m ∈ Visit.parts ⟨names, .list vs⟩ ↔ m.value ∈ vs ∧ m.keysAreNames = false := by
  obtain ⟨names', v⟩ := m
  simp [Visit.parts, eq_comm, and_comm]

/-- What a search leads on to is searched. -/
theorem Searched.part (h : Searched document n.keysAreNames n.value) (hm : m ∈ n.parts) :
    Searched document m.keysAreNames m.value := by
  obtain ⟨names, v⟩ := n
  cases v with
  | map es =>
    obtain ⟨key, he, hb⟩ := mem_parts_map_iff.1 hm
    cases names with
    | true =>
      rw [← Option.some.inj hb]
      exact .named h he
    | false =>
      unfold Reference.below isExample at hb
      by_cases hexample : key = .text "example"
      · simp [hexample] at hb
      · by_cases hexamples : key = .text "examples"
        · simp [hexamples] at hb
        · have hmode : (key == .text "properties") = m.keysAreNames := by
            simpa [hexample, hexamples] using hb
          rw [← hmode]
          exact .entry h he hexample hexamples
  | list vs =>
    obtain ⟨hv, hmode⟩ := mem_parts_list_iff.1 hm
    rw [hmode]
    exact .item h hv
  | _ => cases hm

/-- What is visited from the root of the document is what is searched in it. -/
theorem mem_all_iff {names : Bool} {v : Value} :
    ⟨names, v⟩ ∈ Visit.all ⟨false, document⟩ ↔ Searched document names v := by
  constructor
  · have hall : ∀ n : Visit, Searched document n.keysAreNames n.value →
        ∀ m ∈ n.all, Searched document m.keysAreNames m.value := by
      intro n
      induction n using Visit.induction_parts with
      | step n ih =>
        intro hn m hm
        rw [Visit.all_eq] at hm
        rcases List.mem_cons.1 hm with rfl | hm
        · exact hn
        · obtain ⟨p, hp, hm⟩ := List.mem_flatMap.1 hm
          exact ih p hp (hn.part hp) m hm
    exact hall ⟨false, document⟩ .root ⟨names, v⟩
  · intro h
    induction h with
    | root =>
      rw [Visit.all_eq]
      exact List.mem_cons_self
    | entry h hm hexample hexamples ih =>
      refine Visit.mem_all_of_mem_parts ih (mem_parts_map_iff.2 ⟨_, hm, ?_⟩)
      simp [below, isExample, hexample, hexamples]
    | named h hm ih => exact Visit.mem_all_of_mem_parts ih (mem_parts_map_iff.2 ⟨_, hm, rfl⟩)
    | item h hm ih => exact Visit.mem_all_of_mem_parts ih (mem_parts_list_iff.2 ⟨hm, rfl⟩)

/-- The check fails exactly if a map that is searched has a flaw. -/
theorem exists_checkDocument_eq_error_iff :
    (∃ e, checkDocument document = .error e) ↔
      ∃ names v e, Searched document names v ∧ Flaw ⟨names, v⟩ e := by
  have hcheck : checkDocument document = Visit.check ⟨false, document⟩ := rfl
  rw [hcheck, Visit.check_eq, exists_forM_eq_error_iff]
  simp only [inspect_eq_error_iff]
  constructor
  · rintro ⟨n, hn, e, he⟩
    exact ⟨_, _, e, mem_all_iff.1 hn, he⟩
  · rintro ⟨names, v, e, hv, he⟩
    exact ⟨⟨names, v⟩, mem_all_iff.2 hv, e, he⟩

/-- **The check of references is a search.** A loop that keeps a stack of what is still to be looked
at ends like the check, in a round for each value that is searched. The check fails exactly if a map
that is searched has a flaw, and then with the flaw that comes first when every value is visited
before its parts, and of these the last first. The failure comes to light as it is, unless it quotes
a value without a written form, and then as a bad value. -/
theorem check_as_search (document : Value) :
    Visit.searchWithin (Visit.all ⟨false, document⟩).length [⟨false, document⟩] =
        some (checkDocument document) ∧
    (∀ names v, ⟨names, v⟩ ∈ Visit.all ⟨false, document⟩ ↔ Searched document names v) ∧
    ((∃ e, checkDocument document = .error e) ↔
      ∃ names v e, Searched document names v ∧ Flaw ⟨names, v⟩ e) ∧
    ∀ e, (checkDocument document).mapError Failure.surfaced = .error e ↔
      ∃ flaw, FirstFlaw (Visit.all ⟨false, document⟩) flaw ∧
        ((∀ v, flaw.quoted? = some v → v.isSayable = true) ∧ e = flaw ∨
          (∃ v, flaw.quoted? = some v ∧ v.isSayable = false) ∧ e = .fault .badValue) := by
  have hcheck : checkDocument document = Visit.check ⟨false, document⟩ := rfl
  refine ⟨Visit.searchWithin_singleton _, fun _ _ => mem_all_iff,
    exists_checkDocument_eq_error_iff, fun e => ?_⟩
  rw [hcheck, mapError_eq_error_iff]
  simp only [check_eq_error_iff, Failure.surfaced_eq_iff]

/-- What stands under `example` is passed over, and a property may be called `$ref`. Of the two
references that lead out of the document the later one is complained of. -/
example :
    checkDocument (.record [("a", .record [("$ref", .text "a.yaml#/A")]),
      ("properties", .record [("$ref", .record [("$ref", .text "b.yaml#/B")])]),
      ("example", .record [("$ref", .int 5)])]) = .error (.externalReference "b.yaml#/B") := rfl

end Reference

end ApiModel
