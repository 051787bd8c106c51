import ApiModel.Output.Emoji

/-!
# Markup

Messages are written with tags in brackets, such as `[bold]`. A tag after an odd number of
backslashes is text, and every two backslashes before a tag stand for one. A text is escaped so that
none of its brackets is taken for a tag.

* `tag?_length_lt`: what comes after a tag is shorter.
* `pieces_of_not_mem`: a text without brackets has no tags.
-/

namespace ApiModel.Output.Markup

/-! ## Tags -/

/-- Whether a character can follow the bracket that opens a tag. -/
def opensTag (c : Char) : Bool := ('a' ≤ c && c ≤ 'z') || c == '#' || c == '/' || c == '@'

/-- Whether a character can stand inside a tag. -/
def isInTag (c : Char) : Bool := c ≠ '[' && c ≠ ']'

/-- The tag at the start of a text, with its brackets, and what comes after it. -/
def tag? : List Char → Option (List Char × List Char)
  | '[' :: c :: rest =>
    if opensTag c then
      match rest.dropWhile isInTag with
      | ']' :: after => some ('[' :: c :: rest.takeWhile isInTag ++ [']'], after)
      | _ => none
    else none
  | _ => none

theorem tag?_length_lt {cs tag after : List Char} (h : tag? cs = some (tag, after)) :
    after.length < cs.length := by
  unfold tag? at h
  split at h
  · rename_i c rest
    split at h
    · split at h
      · rename_i after' hd
        have hs : (rest.dropWhile isInTag).length ≤ rest.length :=
          (List.dropWhile_sublist _).length_le
        rw [hd] at hs
        simp only [Option.some.injEq, Prod.mk.injEq] at h
        rw [← h.2]
        simp only [List.length_cons] at hs ⊢
        omega
      · cases h
    · cases h
  · cases h

theorem tag?_drop_length_lt {n : Nat} {c : Char} {rest tag after : List Char}
    (h : tag? ((c :: rest).drop n) = some (tag, after)) : after.length < rest.length + 1 := by
  have := tag?_length_lt h
  simp only [List.length_drop, List.length_cons] at this
  omega

/-! ## Pieces -/

/-- A piece of a text with markup. -/
inductive Piece where
  /-- Text. -/
  | plain (cs : List Char)
  /-- Something in the form of a tag, after a number of backslashes. -/
  | tag (marks : Nat) (cs : List Char)
  deriving DecidableEq, Repr

/-- Pieces with one more character of text before them. -/
def prepend (c : Char) : List Piece → List Piece
  | .plain cs :: ps => .plain (c :: cs) :: ps
  | ps => .plain [c] :: ps

/-- The number of backslashes at the start of a text. -/
def countMarks (cs : List Char) : Nat := (cs.takeWhile (· == '\\')).length

/-- The pieces of a text. -/
def pieces (cs : List Char) : List Piece :=
  match cs with
  | [] => []
  | c :: rest =>
    match h : tag? ((c :: rest).drop (countMarks (c :: rest))) with
    | some (t, after) =>
      have := tag?_drop_length_lt h
      .tag (countMarks (c :: rest)) t :: pieces after
    | none => prepend c (pieces rest)
termination_by cs.length

theorem tag?_of_not_mem {cs : List Char} (h : '[' ∉ cs) : tag? cs = none := by
  unfold tag?
  split
  · simp at h
  · rfl

theorem pieces_of_not_mem {cs : List Char} (h : '[' ∉ cs) (hne : cs ≠ []) :
    pieces cs = [.plain cs] := by
  induction cs with
  | nil => exact absurd rfl hne
  | cons c rest ih =>
    rw [pieces]
    have hd : tag? ((c :: rest).drop (countMarks (c :: rest))) = none :=
      tag?_of_not_mem fun hm => h (List.mem_of_mem_drop hm)
    split
    · rename_i h'
      cases hd.symm.trans h'
    · cases rest with
      | nil => rw [pieces]; rfl
      | cons d ds =>
        rw [ih (fun hm => h (List.mem_cons_of_mem _ hm)) (by simp)]
        rfl

/-! ## Escaping -/

/-- A number of backslashes. -/
def marks (n : Nat) : List Char := List.replicate n '\\'

/-- A piece of a text in a form in which it is all text. -/
def Piece.escaped : Piece → List Char
  | .plain cs => cs
  | .tag n t => marks (2 * n + 1) ++ t

/-- A text in a form without tags. A single backslash at the end is doubled. -/
def escape (cs : List Char) : List Char :=
  let escaped := (pieces cs).flatMap Piece.escaped
  if countMarks escaped.reverse = 1 then escaped ++ ['\\'] else escaped

/-! ## What is shown -/

/-- A text without the backslashes that stand before brackets. -/
def dropMarks : List Char → List Char
  | [] => []
  | '\\' :: '[' :: r => '[' :: dropMarks r
  | c :: r => c :: dropMarks r

/-- What is shown of a piece. -/
def Piece.shown : Piece → List Char
  | .plain cs => Emoji.replace (dropMarks cs)
  | .tag n t => marks (n / 2) ++ (if n % 2 = 1 then Emoji.replace t else [])

/-- What is shown of a text with markup. -/
def shown (cs : List Char) : List Char := (pieces cs).flatMap Piece.shown

end ApiModel.Output.Markup
