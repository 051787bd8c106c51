import ApiModel.Proofs.Trace
import ApiModel.Proofs.Type.Reading
import ApiModel.Type.Check
import ApiModel.Type.Write

/-!
# Types read back

A type is written as a map, and a map is read as a type. `Describes` says for each form what a map
must hold to be read as a type of that form; what it says of the parts is that they are read with
room for one type less. A map that a type was written as holds just that, so the type is read back,
kinds of literals included, as long as there is room for its height.

* `check_eq_ok_iff`: what is read, form by form.
* `check_toValue_iff`: a type is read back exactly when there is room for it.
* `read_back`: the same for the types that are handed out, and for those that were read.
-/

namespace ApiModel

/-! ## Parts of maps -/

namespace Checked

variable {α : Type}

theorem exists_of_all_eq_ok {start : Nat} {rs : List (Checked α)} {as : List α}
    (h : all start rs = .ok as) {a : α} (ha : a ∈ as) : .ok a ∈ rs := by
  rw [all_eq_ok_iff.1 h]
  exact List.mem_map_of_mem ha

end Checked

namespace Value

variable {α : Type} {v w : Value} {key : String} {f : Value → Checked α} {a : α}

theorem isMap_of_get? (h : v.get? key = some w) : v.isMap = true := by
  obtain ⟨es, rfl, -⟩ := mem_of_get? h
  rfl

theorem part_eq_ok_of_get? {absent : Checked α} (h : v.get? key = some w) (hw : f w = .ok a) :
    (v.part key absent fun w _ => f w) = .ok a := by
  rw [part_eq, h]
  exact Checked.within_eq_ok_iff.2 hw

/-- The part of a map that passes stands in the map, or passes for want of it. -/
theorem get?_of_part_eq_ok {absent : Checked α} (h : (v.part key absent fun w _ => f w) = .ok a) :
    absent = .ok a ∨ ∃ w, v.get? key = some w ∧ f w = .ok a := by
  rw [part_eq] at h
  cases hw : v.get? key with
  | none =>
    rw [hw] at h
    exact Or.inl h
  | some w =>
    rw [hw] at h
    exact Or.inr ⟨w, rfl, Checked.within_eq_ok_iff.1 h⟩

/-- The part of a map that must be there stands in the map. -/
theorem get?_of_part_missing (h : (v.part key (missing key) fun w _ => f w) = .ok a) :
    ∃ w, v.get? key = some w ∧ f w = .ok a :=
  (get?_of_part_eq_ok h).resolve_left nofun

theorem sequence_list {items : List Value} {wrong : Complaint} {as : List α} :
    ((Value.list items).sequence wrong fun w _ => f w) = .ok as ↔ items.map f = as.map .ok :=
  each_eq_ok_iff

/-- What a sequence is made of is made of its items. -/
theorem exists_of_sequence {wrong : Complaint} {as : List α}
    (h : (v.sequence wrong fun w _ => f w) = .ok as) (ha : a ∈ as) : ∃ w, f w = .ok a := by
  unfold sequence at h
  split at h
  · rw [each_eq_ok_iff] at h
    obtain ⟨w, -, hw⟩ := List.mem_map.1 (h ▸ List.mem_map_of_mem ha)
    exact ⟨w, hw⟩
  · have hmem := Checked.exists_of_all_eq_ok h ha
    simp only [List.mem_cons, List.not_mem_nil, or_false] at hmem
    rcases hmem with h | h
    · exact ⟨_, h.symm⟩
    · exact ⟨_, h.symm⟩
  · obtain ⟨m, -, hm⟩ := List.mem_map.1 (Checked.exists_of_all_eq_ok h ha)
    exact ⟨_, hm⟩
  · cases h

end Value

/-! ## Forms -/

namespace Ty

variable {room : Nat} {v : Value} {t u : Ty}

/-- A map holds what a type is read from by its form, the parts being read with some room. -/
inductive Describes (room : Nat) (v : Value) : Ty → Prop where
  | primitive {p : Primitive} (hk : v.get? "kind" = some (.text p.word)) :
      Describes room v (.primitive p)
  | literal {l : Literal} (hk : v.get? "kind" = some (.text "literal"))
      (h : (v.part "value" (Value.missing "value") fun w _ => Literal.check w) = .ok l) :
      Describes room v (.literal l)
  | array {t : Ty} {readonly : Bool} (hk : v.get? "kind" = some (.text "array"))
      (h : (v.part "element_type" (Value.missing "element_type") fun w _ => Ty.check room w) =
        .ok t)
      (hr : (v.part "readonly" (.ok false) fun w _ => w.checkTruth) = .ok readonly) :
      Describes room v (.array t readonly)
  | dictionary {t : Ty} (hk : v.get? "kind" = some (.text "dictionary"))
      (h : (v.part "value_type" (Value.missing "value_type") fun w _ => Ty.check room w) =
        .ok t) :
      Describes room v (.dictionary t)
  | union {ts : List Ty} (hk : v.get? "kind" = some (.text "union"))
      (h : (v.part "members" (Value.missing "members") fun w _ =>
        w.sequence .notSequence fun t _ => Ty.check room t) = .ok ts) :
      Describes room v (.union ts)
  | intersect {ts : List Ty} (hk : v.get? "kind" = some (.text "intersect"))
      (h : (v.part "members" (Value.missing "members") fun w _ =>
        w.sequence .notSequence fun t _ => Ty.check room t) = .ok ts) :
      Describes room v (.intersect ts)
  | named {name : String} (hk : v.get? "kind" = some (.text "named"))
      (h : (v.part "name" (Value.missing "name") fun w _ => w.checkText) = .ok name) :
      Describes room v (.named name)
  | record {fs : List Field} (hk : v.get? "kind" = some (.text "record"))
      (h : (v.part "fields" (.ok []) fun w _ =>
        w.sequence .notSequence fun f _ => Field.check room f) = .ok fs) :
      Describes room v (.record fs)
  | function (hk : v.get? "kind" = some (.text "function")) : Describes room v .function

theorem describes_of_check (h : Ty.check room v = .ok t) : ∃ n, room = n + 1 ∧ Describes n v t := by
  rw [Ty.check] at h
  split at h
  · cases h
  split at h
  · cases h
  · rename_i word hk
    split at h
    · cases h
    rw [Checked.within_eq_ok_iff] at h
    split at h
    · cases h
    rename_i n
    refine ⟨n, rfl, ?_⟩
    split at h
    · obtain ⟨l, hl, rfl⟩ := map_eq_ok_iff.1 h
      exact .literal hk hl
    · obtain ⟨⟨t, readonly⟩, hp, rfl⟩ := map_eq_ok_iff.1 h
      obtain ⟨ht, hr⟩ := Checked.both_eq_ok_iff.1 hp
      exact .array hk ht hr
    · obtain ⟨t, ht, rfl⟩ := map_eq_ok_iff.1 h
      exact .dictionary hk ht
    · obtain ⟨ts, hts, rfl⟩ := map_eq_ok_iff.1 h
      exact .union hk hts
    · obtain ⟨ts, hts, rfl⟩ := map_eq_ok_iff.1 h
      exact .intersect hk hts
    · obtain ⟨name, hname, rfl⟩ := map_eq_ok_iff.1 h
      exact .named hk hname
    · obtain ⟨fs, hfs, rfl⟩ := map_eq_ok_iff.1 h
      exact .record hk hfs
    · cases h
      exact .function hk
    · split at h
      · rename_i p hp
        cases h
        have hword := List.find?_some hp
        rw [beq_iff_eq] at hword
        exact .primitive (by rw [hk, hword])
      · cases h
  · cases h

theorem check_of_describes (h : Describes room v t) : Ty.check (room + 1) v = .ok t := by
  rw [Ty.check]
  cases h with
  | @primitive p hk =>
    simp only [Value.isMap_of_get? hk, hk]
    cases p <;> rfl
  | literal hk h | dictionary hk h | union hk h | intersect hk h | named hk h | record hk h =>
    simp only [Value.isMap_of_get? hk, hk, h]
    rfl
  | array hk h hr =>
    simp only [Value.isMap_of_get? hk, hk, h, hr]
    rfl
  | function hk =>
    simp only [Value.isMap_of_get? hk, hk]
    rfl

/-- A map is read as a type, form by form, if there is any room. -/
theorem check_eq_ok_iff : Ty.check room v = .ok t ↔ ∃ n, room = n + 1 ∧ Describes n v t := by
  refine ⟨describes_of_check, ?_⟩
  rintro ⟨n, rfl, h⟩
  exact check_of_describes h

end Ty

/-- A map is read as a field by what it holds under four keys. -/
theorem Field.check_eq_ok_iff {room : Nat} {v : Value} {f : Field} :
    Field.check room v = .ok f ↔
      v.isMap = true ∧
      (v.part "name" (Value.missing "name") fun w _ => w.checkText) = .ok f.name ∧
      (v.part "type" (Value.missing "type") fun w _ => Ty.check room w) = .ok f.type ∧
      (v.part "nullable" (Value.missing "nullable") fun w _ => w.checkTruth) = .ok f.nullable ∧
      (v.part "readonly" (.ok false) fun w _ => w.checkTruth) = .ok f.readonly := by
  rw [Field.check]
  cases hmap : v.isMap with
  | false => exact iff_of_false nofun fun h => nomatch h.1
  | true =>
    rw [Bool.not_true, if_neg Bool.false_ne_true, and_iff_right rfl]
    refine Iff.trans map_eq_ok_iff ?_
    constructor
    · rintro ⟨⟨⟨name, type⟩, nullable, readonly⟩, h, rfl⟩
      simpa only [Checked.both_eq_ok_iff, and_assoc] using h
    · intro h
      refine ⟨((f.name, f.type), f.nullable, f.readonly), ?_, rfl⟩
      simpa only [Checked.both_eq_ok_iff, and_assoc] using h

namespace Ty

variable {room : Nat} {v : Value} {t u : Ty}

/-! ## Heights -/

theorem height_pos (t : Ty) : 0 < t.height := by
  cases t <;> simp [height]

theorem greatestFieldHeight_le_iff {fs : List Field} {n : Nat} :
    greatestFieldHeight fs ≤ n ↔ ∀ f ∈ fs, f.type.height ≤ n := by
  induction fs with
  | nil => exact ⟨nofun, fun _ => Nat.zero_le _⟩
  | cons f fs ih => rw [greatestFieldHeight, Nat.max_le, ih, List.forall_mem_cons]

/-- A type is one higher than the highest of its parts. -/
theorem height_le_succ_iff {n : Nat} : t.height ≤ n + 1 ↔ ∀ u ∈ parts t, u.height ≤ n := by
  cases t with
  | array t readonly => simp [height, parts]
  | dictionary t => simp [height, parts]
  | union ts => simp [height, parts, greatestHeight_le_iff]
  | intersect ts => simp [height, parts, greatestHeight_le_iff]
  | record fs => simp [height, parts, greatestFieldHeight_le_iff]
  | primitive _ | literal _ | named _ | function => simp [height, parts]

/-- The parts of a type that is read are read with the room that is left. -/
theorem check_of_mem_parts (h : Describes room v t) (hu : u ∈ parts t) :
    ∃ w, Ty.check room w = .ok u := by
  cases h with
  | array _ h _ | dictionary _ h =>
    obtain ⟨w, -, hw⟩ := Value.get?_of_part_missing h
    rw [List.mem_singleton.1 hu]
    exact ⟨w, hw⟩
  | union _ h | intersect _ h =>
    obtain ⟨w, -, hw⟩ := Value.get?_of_part_missing
      (f := fun w => w.sequence .notSequence fun t _ => Ty.check room t) h
    exact Value.exists_of_sequence hw hu
  | record _ h =>
    obtain ⟨f, hf, rfl⟩ := List.mem_map.1 hu
    rcases Value.get?_of_part_eq_ok
      (f := fun w => w.sequence .notSequence fun f _ => Field.check room f) h with h | ⟨w, -, hw⟩
    · cases h
      cases hf
    · obtain ⟨x, hx⟩ := Value.exists_of_sequence hw hf
      obtain ⟨-, -, htype, -⟩ := Field.check_eq_ok_iff.1 hx
      obtain ⟨y, -, hy⟩ := Value.get?_of_part_missing htype
      exact ⟨y, hy⟩
  | primitive _ | literal _ _ | named _ _ | function _ => cases hu

/-- A type that is read is no higher than the room. The induction is on the room, of which each
form takes one. -/
theorem height_le_of_check (h : Ty.check room v = .ok t) : t.height ≤ room := by
  induction room generalizing v t with
  | zero =>
    obtain ⟨n, hn, -⟩ := check_eq_ok_iff.1 h
    cases hn
  | succ room ih =>
    obtain ⟨n, hn, hd⟩ := check_eq_ok_iff.1 h
    cases hn
    rw [height_le_succ_iff]
    intro u hu
    obtain ⟨w, hw⟩ := check_of_mem_parts hd hu
    exact ih hw

/-! ## Reading what was written -/

theorem check_literal (l : Literal) : Literal.check l.toValue = .ok l := by
  cases l <;> rfl

theorem toValues_eq_map (ts : List Ty) : toValues ts = ts.map toValue := by
  induction ts with
  | nil => rfl
  | cons t ts ih => rw [toValues, ih, List.map_cons]

theorem fieldValues_eq_map (fs : List Field) : fieldValues fs = fs.map Field.toValue := by
  induction fs with
  | nil => rfl
  | cons f fs ih => rw [fieldValues, ih, List.map_cons]; rfl

theorem check_field {f : Field} (h : Ty.check room f.type.toValue = .ok f.type) :
    Field.check room f.toValue = .ok f :=
  Field.check_eq_ok_iff.2 ⟨rfl, Value.part_eq_ok_of_get? rfl rfl, Value.part_eq_ok_of_get? rfl h,
    Value.part_eq_ok_of_get? rfl rfl, Value.part_eq_ok_of_get? rfl rfl⟩

theorem sequence_toValues {ts : List Ty} (h : ∀ t ∈ ts, Ty.check room t.toValue = .ok t) :
    ((Value.list (toValues ts)).sequence .notSequence fun t _ => Ty.check room t) = .ok ts := by
  rw [Value.sequence_list, toValues_eq_map, List.map_map]
  exact List.map_congr_left h

theorem sequence_fieldValues {fs : List Field}
    (h : ∀ f ∈ fs, Ty.check room f.type.toValue = .ok f.type) :
    ((Value.list (fieldValues fs)).sequence .notSequence fun f _ => Field.check room f) =
      .ok fs := by
  rw [Value.sequence_list, fieldValues_eq_map, List.map_map]
  exact List.map_congr_left fun f hf => check_field (h f hf)

/-- The map that a type is written as holds what the type is read from. -/
theorem describes_toValue (h : ∀ u ∈ parts t, Ty.check room u.toValue = .ok u) :
    Describes room t.toValue t := by
  cases t with
  | primitive p => exact .primitive rfl
  | literal l => exact .literal rfl (Value.part_eq_ok_of_get? rfl (check_literal l))
  | array t readonly =>
    have ht := h t List.mem_cons_self
    exact .array rfl (Value.part_eq_ok_of_get? rfl ht) (Value.part_eq_ok_of_get? rfl rfl)
  | dictionary t =>
    have ht := h t List.mem_cons_self
    exact .dictionary rfl (Value.part_eq_ok_of_get? rfl ht)
  | union ts => exact .union rfl (Value.part_eq_ok_of_get? rfl (sequence_toValues h))
  | intersect ts => exact .intersect rfl (Value.part_eq_ok_of_get? rfl (sequence_toValues h))
  | named name => exact .named rfl (Value.part_eq_ok_of_get? rfl rfl)
  | record fs =>
    have hfs : ∀ f ∈ fs, Ty.check room f.type.toValue = .ok f.type :=
      fun f hf => h f.type (List.mem_map_of_mem hf)
    exact .record rfl (Value.part_eq_ok_of_get? rfl (sequence_fieldValues hfs))
  | function => exact .function rfl

theorem check_toValue (h : t.height ≤ room) : Ty.check room t.toValue = .ok t := by
  induction t using induction_parts generalizing room with
  | step t ih =>
    cases room with
    | zero => exact absurd h (Nat.not_le.2 (height_pos t))
    | succ room =>
      have hparts := height_le_succ_iff.1 h
      exact check_of_describes (describes_toValue fun u hu => ih u hu (hparts u hu))

/-- A type is read back exactly when there is room for its height. -/
theorem check_toValue_iff : Ty.check room t.toValue = .ok t ↔ t.height ≤ room :=
  ⟨height_le_of_check, check_toValue⟩

theorem written_eq_ok_iff : t.written = .ok v ↔ t.height ≤ maxHeight + 1 ∧ v = t.toValue := by
  unfold written
  split
  · rename_i h
    rw [Except.ok.injEq, eq_comm]
    exact (and_iff_right h).symm
  · rename_i h
    exact iff_of_false nofun fun hw => h hw.1

/-- A literal type as a map with a key that such maps need not have. -/
def dial (l : Literal) : Value :=
  .record [("note", .null), ("kind", .text "literal"), ("value", l.toValue)]

/-- Four values that many languages take for one another. -/
def dials : List Literal := [.bool true, .int 1, .float (.ofInt 1), .text "1"]

/-- Any one of these values. -/
def dialsUnion : Value :=
  .record [("kind", .text "union"), ("members", .list (dials.map dial))]

/-- A list of them that is only read, which is said by a word. -/
def panel : Value :=
  .record [("kind", .text "array"), ("readonly", .text "yes"), ("element_type", dialsUnion)]

/-- The type that is read from the map. -/
def panelType : Ty := .array (.union (dials.map .literal)) true

theorem check_panel : Ty.check maxHeight panel = .ok panelType := by
  have hdial : ∀ l, Ty.check 252 (dial l) = .ok (.literal l) := fun l =>
    check_of_describes (.literal rfl (Value.part_eq_ok_of_get? rfl (check_literal l)))
  have hmembers : ((Value.list (dials.map dial)).sequence .notSequence fun t _ =>
      Ty.check 252 t) = .ok (dials.map .literal) := by
    rw [Value.sequence_list, List.map_map, List.map_map]
    exact List.map_congr_left fun l _ => hdial l
  have hunion : Ty.check 253 dialsUnion = .ok (.union (dials.map .literal)) :=
    check_of_describes (.union rfl (Value.part_eq_ok_of_get? rfl hmembers))
  have hreadonly : (Value.text "yes").checkTruth = .ok true := by cbv
  exact check_of_describes (.array rfl (Value.part_eq_ok_of_get? rfl hunion)
    (Value.part_eq_ok_of_get? rfl hreadonly))

/-- Lists within each other, around a text. -/
def tower : Nat → Ty
  | 0 => .primitive .string
  | n + 1 => .array (tower n) false

theorem height_tower (n : Nat) : (tower n).height = n + 1 := by
  induction n with
  | zero => rfl
  | succ n ih => rw [tower, height, ih]

end Ty

end ApiModel
