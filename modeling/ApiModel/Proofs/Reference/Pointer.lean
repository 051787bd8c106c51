import ApiModel.Reference.Pointer

/-!
# Where the segments of a reference lead

What one segment does on each kind of value, and how a reference that is given by its parts is cut
into segments.

* `step_map_eq_ok_iff`, `step_list_eq_ok_iff`: a segment leads to an entry of a map, or to an item.
* `Text.pieces_append`: a separator cuts a text whatever stands before and after it.
-/

namespace ApiModel

/-! ## Cutting -/

namespace Text

theorem pieces_append (sep : Char) (p r : List Char) :
    pieces sep (p ++ sep :: r) = pieces sep p ++ pieces sep r := by
  induction p with
  | nil => simp [pieces]
  | cons c p ih =>
    rw [List.cons_append, pieces, pieces, ih]
    by_cases h : c = sep
    · rw [if_pos h, if_pos h, List.cons_append]
    · rw [if_neg h, if_neg h]
      cases hp : pieces sep p with
      | nil => exact absurd hp (pieces_ne_nil sep p)
      | cons q qs => rfl

theorem map_toList_cut (sep : Char) (s : String) :
    (cut sep s).map String.toList = pieces sep s.toList := by
  have hid : String.toList ∘ String.ofList = id := funext fun _ => String.toList_ofList
  rw [cut, List.map_map, hid, List.map_id]

end Text

/-! ## One segment -/

namespace Reference

variable {ref : String} {segment : List Char} {w : Value}

theorem step_map_eq_ok_iff {es : Entries} :
    step ref (.map es) segment = .ok w ↔
      es.lookup (.text (String.ofList (unescape segment))) = some w := by
  simp only [step]
  cases es.lookup (.text (String.ofList (unescape segment))) <;> simp

theorem step_list_eq_ok_iff {vs : List Value} :
    step ref (.list vs) segment = .ok w ↔
      (Text.readInteger? 10 (unescape segment)).bind (itemAt? vs) = some w := by
  simp only [step]
  cases (Text.readInteger? 10 (unescape segment)).bind (itemAt? vs) <;> simp

end Reference

end ApiModel
