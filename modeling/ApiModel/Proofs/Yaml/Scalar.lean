import ApiModel.Yaml.Scalar
import ApiModel.Proofs.Trace

/-!
# Faults of scalars

A text that does not have the form its tag asks for runs into a fault. Which faults these are
depends on the tag: only truth values, numbers, days and timestamps have any.

Results:

* `among_ofTag`: the faults of a text with a tag.
-/

namespace ApiModel.Yaml.Scalar

variable {cs : List Char} {text tag : String}

/-- Something is refused, or runs into one of some faults. -/
def Among (fs : List Fault) (e : Refusal) : Prop := ∀ f, e = .fault f → f ∈ fs

theorem Among.mono {fs gs : List Fault} {e : Refusal} (h : Among fs e) (hfs : fs ⊆ gs) :
    Among gs e := fun f hf => hfs (h f hf)

theorem among_fault {f : Fault} {fs : List Fault} (h : f ∈ fs) : Among fs (.fault f) := by
  intro g hg
  cases hg
  exact h

theorem among_integer {base : Nat} : FailsOnly (Among [.noItem, .badValue]) (integer base cs) := by
  unfold integer
  split
  · exact .ok _
  · exact .error (among_fault (by simp))

theorem among_wholeMagnitude : FailsOnly (Among [.noItem, .badValue]) (wholeMagnitude cs) := by
  unfold wholeMagnitude
  split
  · exact .ok _
  · exact among_integer
  · exact among_integer
  · exact among_integer
  · exact .error (among_fault (by simp))
  · split
    · exact (FailsOnly.mapM fun _ _ => among_integer).bind fun _ _ => .ok _
    · exact among_integer

theorem among_signed {fs : List Fault} (h : .noItem ∈ fs) : FailsOnly (Among fs) (signed cs) := by
  unfold signed
  split
  · exact .error (among_fault h)
  · exact .ok _

theorem among_whole : FailsOnly (Among [.noItem, .badValue]) (whole cs) :=
  (among_signed (by simp)).bind fun _ _ => among_wholeMagnitude.bind fun _ _ => .ok _

theorem among_float {fs : List Fault} (h : .badValue ∈ fs) : FailsOnly (Among fs) (float cs) := by
  unfold float
  dsimp only
  split
  · exact .ok _
  · exact .error (among_fault h)

theorem among_sixtieths {fs : List Fault} (h : .overflow ∈ fs) {base : Nat} {sum : Double}
    {ds : List Double} : FailsOnly (Among fs) (sixtieths base sum ds) := by
  induction ds generalizing base sum with
  | nil => exact .ok _
  | cons d ds ih =>
    unfold sixtieths
    dsimp only
    split
    · exact .error (among_fault h)
    · exact ih

theorem among_pointed {label : Nat} :
    FailsOnly (Among [.noItem, .badValue, .overflow]) (pointed label cs) := by
  unfold pointed
  refine (among_signed (by simp)).bind fun p _ => ?_
  split
  rename_i negative rest
  split
  · exact .ok _
  · split
    · exact .ok _
    · extract_lets finish
      have hfinish : ∀ x, FailsOnly (Among [.noItem, .badValue, .overflow]) (finish x) :=
        fun x => .ok _
      split
      · refine FailsOnly.bind (.mapM fun _ _ => among_float (by simp)) fun ds _ => ?_
        exact (among_sixtieths (by simp)).bind fun x _ => hfinish x
      · exact (among_float (by simp)).bind fun x _ => hfinish x

theorem among_moment : FailsOnly (Among [.noMember, .badValue]) (moment cs) := by
  unfold moment
  split
  · exact .error (among_fault (by simp))
  · split
    · exact .error (among_fault (by simp))
    · split
      · exact .ok _
      · split
        · exact .ok _
        · exact .error (among_fault (by simp))

theorem among_truth : FailsOnly (Among [.noEntry]) (truth text) := by
  unfold truth
  dsimp only
  split_ifs
  · exact .ok _
  · exact .ok _
  · exact .error (among_fault (by simp))

theorem among_bytes : FailsOnly (Among []) (bytes cs) := by
  unfold bytes
  split_ifs
  · split
    · exact .ok _
    · exact .error nofun
  · exact .error nofun

/-- The faults that a text may run into for a tag that it does not fit. -/
def faultsOf (tag : String) : List Fault :=
  if tag = Tag.bool then [.noEntry]
  else if tag = Tag.int then [.noItem, .badValue]
  else if tag = Tag.float then [.noItem, .badValue, .overflow]
  else if tag = Tag.timestamp then [.noMember, .badValue]
  else []

/-- A text fails for a tag in one of its faults. -/
theorem among_ofTag {label : Nat} : FailsOnly (Among (faultsOf tag)) (ofTag tag label text) := by
  unfold ofTag
  dsimp only
  split
  · exact .ok _
  · split
    · exact .ok _
    · unfold faultsOf
      split_ifs
      · exact among_truth.map
      · exact among_whole.map
      · exact among_pointed.map
      · exact (among_bytes.imp fun _ h => h.mono (List.nil_subset _)).map
      · exact among_moment
      · exact among_bytes.map
      · exact .error nofun

end ApiModel.Yaml.Scalar
