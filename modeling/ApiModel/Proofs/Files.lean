import ApiModel.Files
import ApiModel.Proofs.Trace
import Mathlib.Data.List.DropRight

/-!
# Files that were written

A path that can be written leads to the same place when it is read: on the way to it lie directories
only, and a file that is put in at its end is none of them. So what was written is read back.

* `place_of_target`: a path that can be written leads to the place where it is written.
* `place_put`: a path still leads where it led after a file was put in that is no directory.
* `read?_of_write`: what was written is read back.
* `tooLong_of_read?`: only a path that is too long keeps a file from being looked for.
-/

namespace ApiModel.Files

variable {fs files : Files} {p q : Place} {path : String} {content : List UInt8}

/-! ## Writing -/

theorem write_eq_ok_iff :
    fs.write path content = .ok files ↔
      ∃ p, fs.target path = .ok p ∧ fs.isDirectory p = false ∧ files = fs.put p content := by
  unfold write
  rw [bind_eq_ok_iff]
  constructor
  · rintro ⟨p, hp, h⟩
    split at h
    · cases h
    · rename_i hfile
      cases h
      exact ⟨p, hp, Bool.eq_false_iff.2 hfile, rfl⟩
  · rintro ⟨p, hp, hfile, rfl⟩
    refine ⟨p, hp, ?_⟩
    rw [if_neg (Bool.eq_false_iff.1 hfile)]
    rfl

/-- A path can be opened to be written, which leaves an empty file. -/
def IsWritable (fs : Files) (path : String) : Prop := ∃ files, fs.write path [] = .ok files

/-- Whether a path can be written does not depend on the content. -/
theorem isWritable_iff :
    fs.IsWritable path ↔ ∃ p, fs.target path = .ok p ∧ fs.isDirectory p = false := by
  constructor
  · rintro ⟨files, h⟩
    obtain ⟨p, hp, hfile, -⟩ := write_eq_ok_iff.1 h
    exact ⟨p, hp, hfile⟩
  · rintro ⟨p, hp, hfile⟩
    exact ⟨_, write_eq_ok_iff.2 ⟨p, hp, hfile, rfl⟩⟩

theorem IsWritable.write (h : fs.IsWritable path) (content : List UInt8) :
    ∃ files, fs.write path content = .ok files := by
  obtain ⟨p, hp, hfile⟩ := isWritable_iff.1 h
  exact ⟨_, write_eq_ok_iff.2 ⟨p, hp, hfile, rfl⟩⟩

theorem IsWritable.path_ne (h : fs.IsWritable path) : path ≠ "" := by
  rintro rfl
  obtain ⟨p, hp, -⟩ := isWritable_iff.1 h
  cases hp

/-! ## Places -/

/-- A path that can be written ends with a name, and is followed like any other. -/
theorem place_of_target (h : fs.target path = .ok p) : fs.place path = .ok p := by
  obtain ⟨names, hnames, h⟩ := bind_eq_ok_iff.1 h
  obtain ⟨directory, hdirectory, h⟩ := bind_eq_ok_iff.1 h
  obtain ⟨-, -, h⟩ := bind_eq_ok_iff.1 h
  split at h
  · rename_i name hlast
    split at h
    · cases h
    · rename_i hends
      have hprefix : names.rdropWhile (· == "") <+: names := List.rdropWhile_prefix _ _
      have hwhole : names.rdropWhile (· == "") = names :=
        hprefix.eq_of_length_le (Nat.not_lt.1 fun hlt => hends (Or.inl hlt))
      change (names.rdropWhile (· == "")).dropLast.foldlM fs.stepTo (Path.origin path) =
        .ok directory at hdirectory
      change (names.rdropWhile (· == "")).getLast? = some name at hlast
      rw [hwhole] at hdirectory hlast
      have hsplit : names = names.dropLast ++ [name] :=
        (List.dropLast_append_getLast? name hlast).symm
      have hstep : [name].foldlM fs.stepTo directory = .ok p := by
        rw [List.foldlM_cons]
        exact bind_eq_ok_iff.2 ⟨p, h, rfl⟩
      have hsteps : names.foldlM fs.stepTo (Path.origin path) = .ok p := by
        rw [hsplit, List.foldlM_append, hdirectory]
        exact hstep
      exact bind_eq_ok_iff.2 ⟨names, hnames, hsteps⟩
  · cases h

theorem isDirectory_put (h : fs.isDirectory q = true) :
    (fs.put p content).isDirectory q = true := by
  have hkept : ∀ e ∈ fs.contents, ∃ e' ∈ (fs.put p content).contents, e'.1 = e.1 := by
    intro e he
    have hkeys : e.1 ∈ (Keyed.put Prod.fst fs.contents (p, content)).map Prod.fst := by
      rw [Keyed.keys_put]
      have hmem : e.1 ∈ fs.contents.map Prod.fst := List.mem_map_of_mem he
      split
      · exact hmem
      · exact List.mem_append_left _ hmem
    exact List.mem_map.1 hkeys
  unfold isDirectory at h ⊢
  rw [Bool.or_eq_true] at h ⊢
  refine h.imp id fun hbelow => ?_
  obtain ⟨e, he, hunder⟩ := List.any_eq_true.1 hbelow
  obtain ⟨e', he', hsame⟩ := hkept e he
  exact List.any_eq_true.2 ⟨e', he', by rw [hsame]; exact hunder⟩

theorem enter_eq_ok_iff : fs.enter q = .ok () ↔ fs.at? q = none ∧ fs.isDirectory q = true := by
  unfold enter
  split
  · rename_i hfile
    refine ⟨nofun, fun h => ?_⟩
    rw [h.1] at hfile
    cases hfile
  · rename_i hfile
    have hnone : fs.at? q = none := Option.not_isSome_iff_eq_none.1 hfile
    split
    · rename_i hdirectory
      exact ⟨fun _ => ⟨hnone, hdirectory⟩, fun _ => rfl⟩
    · rename_i hdirectory
      exact ⟨nofun, fun h => absurd h.2 hdirectory⟩

section Putting

-- no directory stands where a file is put in
variable (hp : fs.isDirectory p = false)

include hp

theorem enter_put (h : fs.enter q = .ok ()) : (fs.put p content).enter q = .ok () := by
  obtain ⟨hnone, hdirectory⟩ := enter_eq_ok_iff.1 h
  have hne : q ≠ p := by
    rintro rfl
    rw [hdirectory] at hp
    cases hp
  exact enter_eq_ok_iff.2 ⟨(at?_put_of_ne hne).trans hnone, isDirectory_put hdirectory⟩

theorem stepTo_put {name : String} {r : Place} (h : fs.stepTo q name = .ok r) :
    (fs.put p content).stepTo q name = .ok r := by
  obtain ⟨⟨⟩, henter, h⟩ := bind_eq_ok_iff.1 h
  exact bind_eq_ok_iff.2 ⟨(), enter_put hp henter, h⟩

theorem foldlM_stepTo_put {names : List String} {r : Place}
    (h : names.foldlM fs.stepTo q = .ok r) :
    names.foldlM (fs.put p content).stepTo q = .ok r := by
  induction names generalizing q with
  | nil => exact h
  | cons name names ih =>
    rw [List.foldlM_cons] at h ⊢
    obtain ⟨next, hnext, h⟩ := bind_eq_ok_iff.1 h
    exact bind_eq_ok_iff.2 ⟨next, stepTo_put hp hnext, ih h⟩

theorem place_put (h : fs.place path = .ok q) : (fs.put p content).place path = .ok q := by
  obtain ⟨names, hnames, h⟩ := bind_eq_ok_iff.1 h
  exact bind_eq_ok_iff.2 ⟨names, hnames, foldlM_stepTo_put hp h⟩

end Putting

/-! ## Reading -/

/-- What was written is read back. -/
theorem read?_of_write (h : fs.write path content = .ok files) :
    files.read? path = .ok (some content) := by
  obtain ⟨p, hp, hfile, rfl⟩ := write_eq_ok_iff.1 h
  unfold read?
  rw [place_put hfile (place_of_target hp)]
  exact congrArg _ (at?_put_self fs p content)

/-! ## Paths that are too long -/

/-- A path, or a name in it, is longer than those of files can be. -/
def TooLong (path : String) : Prop :=
  Path.maxBytes < path.utf8ByteSize ∨ ∃ name ∈ Text.cut '/' path, Path.maxName < name.utf8ByteSize

theorem yields_namesOf : Yields (· = Text.cut '/' path)
    (fun e => e = .nameTooLong → TooLong path) (namesOf path) := by
  unfold namesOf
  refine .ite (fun _ => .error nofun) fun _ => ?_
  refine .ite (fun hlong => .error fun _ => Or.inl hlong) fun _ => ?_
  exact .ite (fun _ => .error nofun) fun _ => .ok rfl

theorem yields_place : Yields (fun _ => True)
    (fun e => e = .nameTooLong → TooLong path) (fs.place path) := by
  refine yields_namesOf.bind fun names hnames => .foldlM (fun p name hname _ => ?_) trivial
  unfold stepTo enter
  refine Yields.bind (Q := fun _ => True) ?_ fun _ _ => ?_
  · exact .ite (fun _ => .error nofun) fun _ => .ite (fun _ => .ok trivial) fun _ => .error nofun
  · refine .ite (fun hlong => .error fun _ => Or.inr ⟨name, ?_, hlong⟩) fun _ => .ok trivial
    exact hnames ▸ hname

/-- Only a path that is too long keeps a file from being looked for. -/
theorem tooLong_of_read? {f : Fault} (h : fs.read? path = .error f) :
    f = .nameTooLong ∧ TooLong path := by
  unfold read? at h
  split at h
  · cases h
  · rename_i hplace
    cases h
    exact ⟨rfl, yields_place.of_error hplace rfl⟩
  · cases h

end ApiModel.Files
