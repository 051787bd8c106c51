import ApiModel.Text.Integer

/-!
# Runs of digits

A run of the digits from 0 to 9 is read as a number unless it is too long: nothing in it is a blank,
a sign, an underscore or the mark of a base.

* `readInteger?_of_digits`: what a run of digits is read as.
* `isSome_readInteger?_of_digits`: which runs of digits are numbers.
* `readInteger?_toDigits`: a number that is written with its digits is read back.
-/

namespace ApiModel.Text

variable {c : Char} {cs : List Char}

/-- The value of one of the digits from 0 to 9. -/
def plainValue (c : Char) : Nat := c.toNat - '0'.toNat

/-- The number that a run of the digits from 0 to 9 denotes. -/
def numberOf (cs : List Char) : Nat := ofDigits 10 (cs.map plainValue)

/-- What is asked of one of the digits from 0 to 9 in reading a number. -/
structure IsPlainDigit (c : Char) : Prop where
  /-- It is trimmed off by nothing. -/
  kept : isMargin c = false
  /-- It is no underscore. -/
  notUnderscore : c ≠ '_'
  /-- It is no sign. -/
  notSign : c ≠ '-' ∧ c ≠ '+'
  /-- It has a value. -/
  valued : digitOf? 10 c = some (plainValue c)

theorem isPlainDigit_of_asciiDigit? (h : (asciiDigit? c).isSome = true) : IsPlainDigit c := by
  have hall : ∀ n ∈ List.range' 48 10, isMargin (Char.ofNat n) = false ∧ Char.ofNat n ≠ '_' ∧
      (Char.ofNat n ≠ '-' ∧ Char.ofNat n ≠ '+') ∧
      digitOf? 10 (Char.ofNat n) = some (plainValue (Char.ofNat n)) := by decide
  have hrange : c.toNat ∈ List.range' 48 10 := by
    unfold asciiDigit? at h
    split at h
    · rename_i hc
      have hlow : 48 ≤ c.toNat := hc.1
      have hhigh : c.toNat ≤ 57 := hc.2
      rw [List.mem_range'_1]
      omega
    · cases h
  obtain ⟨hkept, hunderscore, hsign, hvalued⟩ := hall _ hrange
  rw [Char.ofNat_toNat] at hkept hunderscore hsign hvalued
  exact ⟨hkept, hunderscore, hsign, hvalued⟩

theorem trim_of_none {p : Char → Bool} (h : ∀ c ∈ cs, p c = false) : trim p cs = cs := by
  have hdrop : ∀ ds : List Char, (∀ c ∈ ds, p c = false) → ds.dropWhile p = ds := by
    intro ds hds
    cases ds with
    | nil => rfl
    | cons d ds => exact List.dropWhile_cons_of_neg (by simp [hds d List.mem_cons_self])
  unfold trim
  rw [hdrop cs h, hdrop cs.reverse fun c hc => h c (List.mem_reverse.1 hc), List.reverse_reverse]

theorem takeSign_of_digits (h : ∀ c ∈ cs, IsPlainDigit c) : takeSign cs = (false, cs) := by
  unfold takeSign
  split
  · exact absurd rfl (h '-' List.mem_cons_self).notSign.1
  · exact absurd rfl (h '+' List.mem_cons_self).notSign.2
  · rfl

/-- Every digit of a run has its value. -/
theorem groupedDigits?_of_digits (hne : cs ≠ []) (h : ∀ c ∈ cs, IsPlainDigit c) :
    groupedDigits? 10 cs = some (cs.map plainValue) := by
  induction cs with
  | nil => exact absurd rfl hne
  | cons c cs ih =>
    obtain ⟨hc, hrest⟩ := List.forall_mem_cons.1 h
    cases cs with
    | nil => simp [groupedDigits?, hc.valued]
    | cons c' cs =>
      have hunderscore : c' ≠ '_' := (hrest c' List.mem_cons_self).notUnderscore
      rw [groupedDigits?]
      · simp [hc.valued, ih nofun hrest]
      · exact nofun
      · rintro r heq
        exact hunderscore (List.cons.inj heq).1

/-- A run of digits is read as the number that it denotes, unless it is too long. -/
theorem readInteger?_of_digits (hne : cs ≠ []) (h : ∀ c ∈ cs, (asciiDigit? c).isSome = true) :
    readInteger? 10 cs = if maxDigits < cs.length then none else some ↑(numberOf cs) := by
  have hdigits : ∀ c ∈ cs, IsPlainDigit c := fun c hc => isPlainDigit_of_asciiDigit? (h c hc)
  have hmark : dropMark 10 cs = cs := by
    unfold dropMark
    simp
  unfold readInteger?
  rw [trim_of_none fun c hc => (hdigits c hc).kept, takeSign_of_digits hdigits]
  simp [hmark, groupedDigits?_of_digits hne hdigits, numberOf]

/-- A run of digits that is not too long is a number. -/
theorem isSome_readInteger?_of_digits (hne : cs ≠ [])
    (h : ∀ c ∈ cs, (asciiDigit? c).isSome = true) (hlength : cs.length ≤ maxDigits) :
    (readInteger? 10 cs).isSome = true := by
  rw [readInteger?_of_digits hne h, if_neg (Nat.not_lt.2 hlength)]
  rfl

/-! ## Numbers written with their digits -/

theorem isSome_asciiDigit?_of_isDigit (h : c.isDigit = true) : (asciiDigit? c).isSome = true := by
  have hrange : '0' ≤ c ∧ c ≤ '9' := by
    rw [Char.isDigit, Bool.and_eq_true, decide_eq_true_eq, decide_eq_true_eq] at h
    exact h
  unfold asciiDigit?
  rw [if_pos hrange]
  rfl

theorem numberOf_toDigits (n : Nat) : numberOf (Nat.toDigits 10 n) = n := by
  have hfold : numberOf (Nat.toDigits 10 n) = Nat.ofDigitChars 10 (Nat.toDigits 10 n) 0 := by
    unfold numberOf ofDigits
    rw [List.foldl_map]
    rfl
  rw [hfold, Nat.ofDigitChars_ten_toDigits]

/-- A number that is written with its digits is read back, if there are not too many of them. -/
theorem readInteger?_toDigits {n : Nat} (h : n < Nat.pow 10 maxDigits) :
    readInteger? 10 (Nat.toDigits 10 n) = some (n : Int) := by
  have hdigits : ∀ c ∈ Nat.toDigits 10 n, (asciiDigit? c).isSome = true := fun c hc =>
    isSome_asciiDigit?_of_isDigit (Nat.isDigit_of_mem_toDigits (by omega) (by omega) hc)
  have hlength : ∀ d, 0 < d → n < Nat.pow 10 d → (Nat.toDigits 10 n).length ≤ d :=
    fun d hd hn => (Nat.length_toDigits_le_iff (by omega) hd).2 hn
  rw [readInteger?_of_digits Nat.toDigits_ne_nil hdigits,
    if_neg (Nat.not_lt.2 (hlength maxDigits (by decide) h)), numberOf_toDigits]

end ApiModel.Text
