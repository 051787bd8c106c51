/-!
# Line ends

Text that is read from a file or from standard input has one line end: a carriage return, alone or
before a newline, becomes a newline.

* `not_mem_translate`: no carriage return is left.
* `translate_of_not_mem`: a text without carriage returns is left as it is.
-/

namespace ApiModel.Text.Newline

/-- Every line end written as a newline. -/
def translate : List Char → List Char
  | [] => []
  | '\r' :: '\n' :: r => '\n' :: translate r
  | c :: r => (if c = '\r' then '\n' else c) :: translate r

theorem not_mem_translate (cs : List Char) : '\r' ∉ translate cs := by
  fun_induction translate cs with
  | case1 => simp
  | case2 r ih => simp [ih]
  | case3 c r _ ih =>
    simp only [List.mem_cons, not_or]
    refine ⟨?_, ih⟩
    split
    · decide
    · rename_i h
      exact fun e => h e.symm

theorem translate_of_not_mem {cs : List Char} (h : '\r' ∉ cs) : translate cs = cs := by
  fun_induction translate cs with
  | case1 => rfl
  | case2 r _ => simp at h
  | case3 c r _ ih =>
    simp only [List.mem_cons, not_or] at h
    simp [Ne.symm h.1, ih h.2]

/-- Every line end of a string written as a newline. -/
def translateText (s : String) : String := String.ofList (translate s.toList)

end ApiModel.Text.Newline
