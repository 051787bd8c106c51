/-!
# Cutting and joining text

Text is cut at a separator into its pieces and joined again. The cuts work on lists of characters,
the functions on strings wrap them.

* `join_pieces`: the pieces joined by the separator are the text again.
* `not_mem_of_mem_pieces`: no piece holds the separator.
* `pieces_join`: joining pieces without the separator and cutting gives them back.
* `after?_eq_some_iff`: what comes after a start is what follows it.
-/

namespace ApiModel.Text

/-- The pieces of a text between the separators; there is always at least one. -/
def pieces (sep : Char) : List Char → List (List Char)
  | [] => [[]]
  | c :: r =>
    if c = sep then [] :: pieces sep r
    else match pieces sep r with
      | p :: ps => (c :: p) :: ps
      | [] => [[c]]

/-- The pieces with the separator between them. -/
def join (sep : Char) : List (List Char) → List Char
  | [] => []
  | [p] => p
  | p :: q :: ps => p ++ sep :: join sep (q :: ps)

theorem pieces_ne_nil (sep : Char) (cs : List Char) : pieces sep cs ≠ [] := by
  cases cs with
  | nil => simp [pieces]
  | cons c r =>
    simp only [pieces]
    split
    · simp
    · split <;> simp

theorem join_pieces (sep : Char) (cs : List Char) : join sep (pieces sep cs) = cs := by
  induction cs with
  | nil => rfl
  | cons c r ih =>
    simp only [pieces]
    split
    · rename_i h
      match hp : pieces sep r with
      | [] => exact absurd hp (pieces_ne_nil sep r)
      | p :: ps => rw [hp] at ih; simp [join, ih, h]
    · match hp : pieces sep r with
      | [] => exact absurd hp (pieces_ne_nil sep r)
      | [p] => rw [hp] at ih; simpa [join] using ih
      | p :: q :: ps => rw [hp] at ih; simp only [join] at ih; simp [join, ih]

theorem not_mem_of_mem_pieces {sep : Char} {cs p : List Char} (h : p ∈ pieces sep cs) :
    sep ∉ p := by
  induction cs generalizing p with
  | nil => simp only [pieces, List.mem_singleton] at h; simp [h]
  | cons c r ih =>
    simp only [pieces] at h
    split at h
    · rcases List.mem_cons.1 h with rfl | h
      · simp
      · exact ih h
    · rename_i hc
      match hp : pieces sep r with
      | [] => exact absurd hp (pieces_ne_nil sep r)
      | q :: qs =>
        rw [hp] at h
        rcases List.mem_cons.1 h with rfl | h
        · have := ih (p := q) (by rw [hp]; exact List.mem_cons_self ..)
          simp only [List.mem_cons, not_or]
          exact ⟨fun e => hc e.symm, this⟩
        · exact ih (by rw [hp]; exact List.mem_cons_of_mem _ h)

theorem pieces_of_not_mem {sep : Char} {p : List Char} (h : sep ∉ p) : pieces sep p = [p] := by
  induction p with
  | nil => rfl
  | cons c r ih =>
    simp only [List.mem_cons, not_or] at h
    simp [pieces, Ne.symm h.1, ih h.2]

theorem pieces_append_sep {sep : Char} {p : List Char} (h : sep ∉ p) (r : List Char) :
    pieces sep (p ++ sep :: r) = p :: pieces sep r := by
  induction p with
  | nil => simp [pieces]
  | cons c q ih =>
    simp only [List.mem_cons, not_or] at h
    simp [pieces, Ne.symm h.1, ih h.2]

theorem pieces_join {sep : Char} {ps : List (List Char)} (hne : ps ≠ [])
    (h : ∀ p ∈ ps, sep ∉ p) : pieces sep (join sep ps) = ps := by
  match ps with
  | [] => exact absurd rfl hne
  | [p] => exact pieces_of_not_mem (h p (List.mem_singleton.2 rfl))
  | p :: q :: qs =>
    have hp := h p (List.mem_cons_self ..)
    have ih : pieces sep (join sep (q :: qs)) = q :: qs :=
      pieces_join (by simp) fun x hx => h x (List.mem_cons_of_mem _ hx)
    rw [join, pieces_append_sep hp, ih]

/-- The pieces of a string between the separators. -/
def cut (sep : Char) (s : String) : List String := (pieces sep s.toList).map String.ofList

/-- Strings with a text between each two. -/
def between (sep : String) (parts : List String) : String := sep.intercalate parts

/-- What comes after a start, if a text has it. -/
def after? : List Char → List Char → Option (List Char)
  | [], cs => some cs
  | _ :: _, [] => none
  | c :: start, d :: cs => if c = d then after? start cs else none

theorem after?_eq_some_iff {start cs rest : List Char} :
    after? start cs = some rest ↔ cs = start ++ rest := by
  induction start generalizing cs with
  | nil => simp [after?]
  | cons c start ih =>
    cases cs with
    | nil => simp [after?]
    | cons d cs =>
      by_cases h : c = d
      · simp [after?, h, ih]
      · simp [after?, h, Ne.symm h]

/-- Whether the characters of the first list occur in a row in the second. -/
def occursIn (needle : List Char) : List Char → Bool
  | [] => needle.isEmpty
  | c :: r => needle.isPrefixOf (c :: r) || occursIn needle r

/-- Whether the text starts with the given one. -/
def startsWith (start s : String) : Bool := start.toList.isPrefixOf s.toList

/-- Whether the text ends with the given one. -/
def endsWith (tail s : String) : Bool := tail.toList.isSuffixOf s.toList

end ApiModel.Text
