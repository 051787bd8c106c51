import ApiModel.Json.Read
import ApiModel.Proofs.Trace

/-!
# When the reader of JSON gives up

A text that is not JSON is complained about. The reader gives up without a complaint in two cases: a
whole number has too many digits, or too many arrays and objects are open within each other. Both
can be told from the text alone.

Results:

* `longRun_of_read`: a number that is too long is a long run of digits in the text.
* `openings_of_read`: too many open arrays and objects need as many brackets and braces.
-/

namespace ApiModel.Json

/-! ## Long numbers -/

/-- A text holds a run of more digits than are read in a whole number. -/
def HasLongRun (cs : List Char) : Prop :=
  ∃ ds, ds <:+: cs ∧ Text.maxDigits < ds.length ∧ ∀ c ∈ ds, isDigit c = true

theorem HasLongRun.mono {cs cs' : List Char} (h : HasLongRun cs) (hcs : cs <:+: cs') :
    HasLongRun cs' := by
  obtain ⟨ds, hds, hlong, hdigits⟩ := h
  exact ⟨ds, hds.trans hcs, hlong, hdigits⟩

/-- A long run of digits before a point is one of the text. -/
theorem hasLongRun_of_wholeDigits {cs : List Char}
    (h : Text.maxDigits < (wholeDigits cs).length) : HasLongRun cs := by
  unfold wholeDigits at h
  split at h
  · exact absurd h (by decide)
  · refine ⟨_, (List.takeWhile_prefix isDigit).isInfix, h, ?_⟩
    exact fun c hc => List.all_eq_true.1 List.all_takeWhile c hc

/-- A number is a value, or is too long. -/
theorem cases_of_number? {cs : List Char} {t : Token} {n : Nat} (h : number? cs = some (t, n)) :
    (∃ x, t = .scalar x) ∨ t = .tooLong ∧ HasLongRun cs := by
  unfold number? at h
  split at h
  rename_i negative rest hrest
  -- the digits stand after a sign, if there is one
  have hsuffix : rest <:+ cs := by
    split at hrest
    · cases hrest
      exact List.suffix_cons _ _
    · cases hrest
      exact List.suffix_refl _
  dsimp only at h
  by_cases hempty : (wholeDigits rest).isEmpty = true
  · rw [if_pos hempty] at h
    cases h
  · rw [if_neg hempty] at h
    generalize fractionDigits (rest.drop (wholeDigits rest).length) = fraction at h
    generalize exponentPart? _ = power at h
    by_cases hplain : fraction.isEmpty = true ∧ power.isNone = true
    · rw [if_pos hplain] at h
      by_cases hlong : Text.maxDigits < (wholeDigits rest).length
      · rw [if_pos hlong] at h
        cases h
        exact Or.inr ⟨rfl, (hasLongRun_of_wholeDigits hlong).mono hsuffix.isInfix⟩
      · rw [if_neg hlong] at h
        cases h
        exact Or.inl ⟨_, rfl⟩
    · rw [if_neg hplain] at h
      cases h
      exact Or.inl ⟨_, rfl⟩

theorem hasLongRun_of_tokenAt {c : Char} {r : List Char} (h : (tokenAt c r).1 = .tooLong) :
    HasLongRun (c :: r) := by
  unfold tokenAt at h
  split at h
  all_goals try cases h
  · split at h <;> cases h
  · split at h
    · cases h
    · split at h
      · rename_i t n hn
        obtain rfl : t = .tooLong := h
        rcases cases_of_number? hn with ⟨x, hx⟩ | ⟨-, hlong⟩
        · cases hx
        · exact hlong
      · cases h

/-- A token that is too long a number is a long run of digits. -/
theorem hasLongRun_of_mem_tokensFrom {start : Nat} {cs : List Char} {t : Placed}
    (ht : t ∈ tokensFrom start cs) (h : t.token = .tooLong) : HasLongRun cs := by
  induction start, cs using tokensFrom.induct with
  | case1 start =>
    rw [tokensFrom] at ht
    cases ht
  | case2 start c r hgap ih =>
    rw [tokensFrom, if_pos hgap] at ht
    exact (ih ht).mono (List.suffix_cons c r).isInfix
  | case3 start c r hgap t' n hat ih =>
    rw [tokensFrom, if_neg hgap, hat] at ht
    rcases List.mem_cons.1 ht with rfl | ht
    · exact hasLongRun_of_tokenAt (by rw [hat]; exact h)
    · exact (ih ht).mono ((List.drop_suffix n r).trans (List.suffix_cons c r)).isInfix

/-! ## Many brackets -/

/-- The number of brackets and braces that open something in a text. -/
def openings (cs : List Char) : Nat := cs.countP fun c => c == '[' || c == '\x7b'

/-- Whether a token opens an array or an object. -/
def Token.opens : Token → Bool
  | .openObject | .openArray => true
  | _ => false

theorem opens_of_tokenAt {c : Char} {r : List Char} (h : (tokenAt c r).1.opens = true) :
    (c == '[' || c == '\x7b') = true := by
  unfold tokenAt at h
  split at h
  case h_1 => rfl
  case h_3 => rfl
  case h_7 => split at h <;> cases h
  case h_8 =>
    split at h
    · cases h
    · split at h
      · rename_i t n hn
        rcases cases_of_number? hn with ⟨x, rfl⟩ | ⟨rfl, -⟩ <;> cases h
      · cases h
  all_goals cases h

theorem countP_tokensFrom (start : Nat) (cs : List Char) :
    ((tokensFrom start cs).countP fun t => t.token.opens) ≤ openings cs := by
  induction start, cs using tokensFrom.induct with
  | case1 start =>
    rw [tokensFrom]
    exact Nat.zero_le _
  | case2 start c r hgap ih =>
    rw [tokensFrom, if_pos hgap]
    exact Nat.le_trans ih (List.sublist_cons_self c r).countP_le
  | case3 start c r hgap t n hat ih =>
    rw [tokensFrom, if_neg hgap, hat]
    have hrest : openings (r.drop n) ≤ openings r := (List.drop_sublist n r).countP_le
    have hhead : (if t.opens = true then 1 else 0) ≤
        (if (c == '[' || c == '\x7b') = true then 1 else 0) := by
      split
      · exact Nat.le_of_eq (if_pos (opens_of_tokenAt (by rw [hat]; assumption))).symm
      · exact Nat.zero_le _
    rw [List.countP_cons, openings, List.countP_cons]
    exact Nat.add_le_add (Nat.le_trans ih hrest) hhead

namespace State

variable {s s' : State} {t : Placed} {ts : List Placed}

theorem length_complete_le (stack : List Frame) (v : Value) :
    (complete stack v).stack.length ≤ stack.length := by
  unfold complete
  split <;> exact Nat.le_refl _

/-- How one token changes what is open: it opens one more only if it is an opening bracket. -/
inductive Opening (s : State) (t : Placed) : Except Refusal State → Prop where
  /-- Nothing more is open after it. -/
  | kept {s' : State} (h : s'.stack.length ≤ s.stack.length) : Opening s t (.ok s')
  /-- It opens an array or object. -/
  | opened {s' : State} (ht : t.token.opens = true) (h : s'.stack.length = s.stack.length + 1) :
      Opening s t (.ok s')
  /-- It opens an array or object, but too many are open. -/
  | tooDeep (ht : t.token.opens = true) (h : maxDepth ≤ s.stack.length) :
      Opening s t (.error .tooDeep)
  /-- It is a number that is too long. -/
  | tooLong (ht : t.token = .tooLong) : Opening s t (.error .tooLong)
  /-- It cannot stand there. -/
  | malformed (problem : Problem) (place : Nat) : Opening s t (.error (.malformed problem place))

theorem opening_enter (frame : Frame) (next : Next) (ht : t.token.opens = true) :
    Opening s t (s.enter frame next) := by
  unfold enter
  split
  · exact .opened ht rfl
  · exact .tooDeep ht (Nat.le_of_not_lt ‹_›)

theorem opening_beginValue : Opening s t (s.beginValue t) := by
  unfold beginValue
  split
  case h_1 h => exact opening_enter _ _ (by rw [h]; rfl)
  case h_2 h => exact opening_enter _ _ (by rw [h]; rfl)
  case h_5 h => exact .tooLong h
  case h_3 | h_4 => exact .kept (length_complete_le _ _)
  all_goals exact .malformed _ _

theorem opening_beginMember : Opening s t (s.beginMember t) := by
  unfold beginMember
  split
  case h_1 h => exact .kept (by rw [h]; exact Nat.le_refl _)
  all_goals exact .malformed _ _

/-- What one token does. -/
theorem opening_step : Opening s t (s.step t) := by
  have hclosed : ∀ {frame : Frame} {rest : List Frame} {v : Value}, s.stack = frame :: rest →
      Opening s t (.ok (complete rest v)) := by
    intro frame rest v h
    refine .kept (Nat.le_trans (length_complete_le rest v) ?_)
    rw [h]
    exact Nat.le_succ _
  unfold step
  split
  case h_2 | h_4 | h_10 | h_11 => exact hclosed ‹_›
  case h_1 | h_3 => exact opening_beginValue
  case h_5 | h_6 => exact opening_beginMember
  case h_7 | h_8 | h_9 => exact .kept (Nat.le_refl _)
  case h_12 => exact .malformed _ _

/-- Tokens are refused as too long only if there is such a number among them. -/
theorem mem_of_run_tooLong (h : s.run ts = .error .tooLong) : ∃ t ∈ ts, t.token = .tooLong := by
  induction ts generalizing s with
  | nil => cases h
  | cons t ts ih =>
    have hstep := opening_step (s := s) (t := t)
    unfold run at h
    cases hs : s.step t with
    | error e =>
      rw [hs] at h hstep
      cases h
      cases hstep with
      | tooLong ht => exact ⟨t, List.mem_cons_self, ht⟩
    | ok s' =>
      rw [hs] at h
      obtain ⟨u, hu, htoken⟩ := ih h
      exact ⟨u, List.mem_cons_of_mem t hu, htoken⟩

/-- Tokens are refused as too deep only if enough of them open arrays and objects. -/
theorem countP_of_run_tooDeep (h : s.run ts = .error .tooDeep) :
    maxDepth < s.stack.length + ts.countP fun t => t.token.opens := by
  induction ts generalizing s with
  | nil => cases h
  | cons t ts ih =>
    have hstep := opening_step (s := s) (t := t)
    unfold run at h
    rw [List.countP_cons]
    cases hs : s.step t with
    | error e =>
      rw [hs] at h hstep
      cases h
      cases hstep with
      | tooDeep ht hdepth =>
        rw [if_pos ht]
        omega
    | ok s' =>
      rw [hs] at h hstep
      have hrest := ih h
      cases hstep with
      | kept hlength => omega
      | opened ht hlength =>
        rw [if_pos ht]
        omega

end State

/-! ## Whole texts -/

theorem run_of_read {text : String} {e : Refusal} (h : read text = .error e)
    (he : ∀ problem place, e ≠ .malformed problem place) :
    State.start.run (tokens text.toList) = .error e := by
  unfold read readChars at h
  split at h
  · cases h
    exact absurd rfl (he _ _)
  · cases hrun : State.start.run (tokens text.toList) with
    | error e' =>
      rw [hrun] at h
      cases h
      rfl
    | ok s =>
      rw [hrun] at h
      dsimp only [bind, Except.bind] at h
      split at h
      · cases h
      · cases h
        exact absurd rfl (he _ _)

/-- A number that is too long is a long run of digits in the text. -/
theorem longRun_of_read {text : String} (h : read text = .error .tooLong) :
    HasLongRun text.toList := by
  obtain ⟨t, ht, htoken⟩ := State.mem_of_run_tooLong (run_of_read h nofun)
  exact hasLongRun_of_mem_tokensFrom ht htoken

/-- Too many open arrays and objects need as many brackets and braces. -/
theorem openings_of_read {text : String} (h : read text = .error .tooDeep) :
    maxDepth < openings text.toList := by
  have hcount := State.countP_of_run_tooDeep (run_of_read h nofun)
  have htokens := countP_tokensFrom 0 text.toList
  simp only [State.start, List.length_nil, Nat.zero_add] at hcount
  exact Nat.lt_of_lt_of_le hcount htokens

/-! ## Faults -/

/-- The reader gives up on a text, in a fault. -/
inductive Stops (text : String) : Fault → Prop where
  /-- A whole number is too long. -/
  | tooLong (h : read text = .error .tooLong) : Stops text .badValue
  /-- Too many arrays and objects are open. -/
  | tooDeep (h : read text = .error .tooDeep) : Stops text .tooDeep

variable {text : String} {f : Fault}

/-- What the reader gives up on shows in the text. -/
theorem Stops.cause (h : Stops text f) :
    f = .badValue ∧ HasLongRun text.toList ∨ f = .tooDeep ∧ maxDepth < openings text.toList := by
  cases h with
  | tooLong h => exact Or.inl ⟨rfl, longRun_of_read h⟩
  | tooDeep h => exact Or.inr ⟨rfl, openings_of_read h⟩

/-- How a text is read decides whether the reader gives up on it. -/
theorem stops_iff {r : Except Refusal Value} (h : read text = r) :
    Stops text f ↔ r = .error .tooLong ∧ f = .badValue ∨ r = .error .tooDeep ∧ f = .tooDeep := by
  constructor
  · rintro (hread | hread)
    · exact Or.inl ⟨h.symm.trans hread, rfl⟩
    · exact Or.inr ⟨h.symm.trans hread, rfl⟩
  · rintro (⟨rfl, rfl⟩ | ⟨rfl, rfl⟩)
    · exact .tooLong h
    · exact .tooDeep h

end ApiModel.Json
