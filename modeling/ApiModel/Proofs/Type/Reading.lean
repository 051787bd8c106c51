import ApiModel.Proofs.Schema.Describable
import ApiModel.Proofs.Type.Links

/-!
# Reading a type from left to right

A type is read by itself and then part by part, each part with everything inside it. What is met in
the reading is what occurs in the type. `Ty.namedTypes` goes through a type with the names it has
found so far in hand; what it finds are the names that are met, each when it is met first.

* `mem_reading_iff`: what is met is what occurs.
* `links_eq_filterMap`: the links of a type are the named types that are met.
* `namedTypes_in_reading`: which names are found, how often, and in which order.
-/

namespace ApiModel.Ty

/-! ## The reading -/

/-- The parts of a type, from left to right. -/
def parts : Ty → List Ty
  | .array t _ => [t]
  | .dictionary t => [t]
  | .union ts => ts
  | .intersect ts => ts
  | .record fs => fs.map (·.type)
  | .primitive _ | .literal _ | .named _ | .function => []

theorem sizeOf_lt_of_mem_parts {t u : Ty} (h : u ∈ parts t) : sizeOf u < sizeOf t := by
  cases t with
  | array t readonly =>
    rw [List.mem_singleton.1 h, array.sizeOf_spec]
    omega
  | dictionary t =>
    rw [List.mem_singleton.1 h, dictionary.sizeOf_spec]
    omega
  | union ts =>
    have : sizeOf u < sizeOf ts := List.sizeOf_lt_of_mem h
    rw [union.sizeOf_spec]
    omega
  | intersect ts =>
    have : sizeOf u < sizeOf ts := List.sizeOf_lt_of_mem h
    rw [intersect.sizeOf_spec]
    omega
  | record fs =>
    obtain ⟨f, hf, rfl⟩ := List.mem_map.1 h
    have := List.sizeOf_lt_of_mem hf
    have : sizeOf f.type < sizeOf f := by
      cases f
      simp only [FieldOf.mk.sizeOf_spec]
      omega
    rw [record.sizeOf_spec]
    omega
  | primitive _ | literal _ | named _ | function => cases h

/-- What holds of a type whenever it holds of its parts, holds of every type. -/
theorem induction_parts {P : Ty → Prop} (step : ∀ t, (∀ u ∈ parts t, P u) → P t) (t : Ty) :
    P t := by
  induction hn : sizeOf t using Nat.strongRecOn generalizing t with
  | _ n ih =>
    refine step t fun u hu => ih (sizeOf u) ?_ u rfl
    rw [← hn]
    exact sizeOf_lt_of_mem_parts hu

/-- A type and all types inside it, each before its parts, and these from left to right. -/
def reading (t : Ty) : List Ty := t :: (parts t).attach.flatMap fun u => reading u.1
termination_by sizeOf t
decreasing_by exact sizeOf_lt_of_mem_parts u.2

theorem reading_eq (t : Ty) : reading t = t :: (parts t).flatMap reading := by
  rw [reading, List.flatMap_subtype fun u _ => rfl, List.unattach_attach]

/-! ## What is met -/

theorem mem_reading_self (t : Ty) : t ∈ reading t := by
  rw [reading_eq]
  exact List.mem_cons_self

/-- The parts of what is met are met. -/
theorem mem_reading_of_mem_parts {t u v : Ty} (hu : u ∈ reading t) (hv : v ∈ parts u) :
    v ∈ reading t := by
  induction t using induction_parts with
  | step t ih =>
    rw [reading_eq] at hu ⊢
    refine List.mem_cons_of_mem _ (List.mem_flatMap.2 ?_)
    rcases List.mem_cons.1 hu with rfl | hu
    · exact ⟨v, hv, mem_reading_self v⟩
    · obtain ⟨p, hp, hu⟩ := List.mem_flatMap.1 hu
      exact ⟨p, hp, ih p hp hu⟩

theorem Occurs.of_mem_parts {t u v : Ty} {pos : Position} (h : Occurs t pos u) (hv : v ∈ parts u) :
    ∃ pos, Occurs t pos v := by
  cases u with
  | array u readonly => exact ⟨_, by rw [List.mem_singleton.1 hv]; exact .element h⟩
  | dictionary u => exact ⟨_, by rw [List.mem_singleton.1 hv]; exact .value h⟩
  | union us => exact ⟨_, .member h hv⟩
  | intersect us => exact ⟨_, .part h hv⟩
  | record fs =>
    obtain ⟨f, hf, rfl⟩ := List.mem_map.1 hv
    exact ⟨_, .field h hf⟩
  | primitive _ | literal _ | named _ | function => cases hv

theorem Occurs.of_mem_reading {t u v : Ty} {pos : Position} (h : Occurs t pos u)
    (hv : v ∈ reading u) : ∃ pos, Occurs t pos v := by
  induction u using induction_parts generalizing pos with
  | step u ih =>
    rw [reading_eq] at hv
    rcases List.mem_cons.1 hv with rfl | hv
    · exact ⟨pos, h⟩
    · obtain ⟨p, hp, hv⟩ := List.mem_flatMap.1 hv
      obtain ⟨pos', h'⟩ := h.of_mem_parts hp
      exact ih p hp h' hv

/-- What is met in reading a type is what occurs in it. -/
theorem mem_reading_iff {t u : Ty} : u ∈ reading t ↔ ∃ pos, Occurs t pos u := by
  constructor
  · exact fun h => Occurs.whole.of_mem_reading h
  · rintro ⟨pos, h⟩
    induction h with
    | whole => exact mem_reading_self t
    | element _ ih => exact mem_reading_of_mem_parts ih List.mem_cons_self
    | value _ ih => exact mem_reading_of_mem_parts ih List.mem_cons_self
    | member _ hu ih => exact mem_reading_of_mem_parts ih hu
    | part _ hu ih => exact mem_reading_of_mem_parts ih hu
    | field _ hf ih => exact mem_reading_of_mem_parts ih (List.mem_map_of_mem hf)

/-! ## Links -/

/-- The name that a type is a link to. -/
def name? : Ty → Option String
  | .named n => some n
  | _ => none

theorem name?_eq_some_iff {t : Ty} {n : String} : t.name? = some n ↔ t = .named n := by
  cases t <;> simp [name?]

/-- The links of a type are those of its parts, unless it is a link itself. -/
theorem links_eq_parts (t : Ty) : links t = t.name?.toList ++ (parts t).flatMap links := by
  cases t with
  | array t _ => simp [links, name?, parts]
  | dictionary t => simp [links, name?, parts]
  | union ts => simp [links, name?, parts, linksOfAll_eq_flatMap]
  | intersect ts => simp [links, name?, parts, linksOfAll_eq_flatMap]
  | record fs => simp [links, name?, parts, linksOfFields_eq_flatMap, List.flatMap_map]
  | primitive _ | literal _ | named _ | function => simp [links, name?, parts]

theorem links_eq_filterMap (t : Ty) : links t = (reading t).filterMap name? := by
  induction t using induction_parts with
  | step t ih =>
    have hparts : (parts t).flatMap links =
        (parts t).flatMap fun u => (reading u).filterMap name? :=
      List.flatMap_congr ih
    rw [links_eq_parts, reading_eq, List.filterMap_cons, List.filterMap_flatMap, ← hparts]
    cases t.name? <;> rfl

theorem mem_links_iff {t : Ty} {n : String} : n ∈ links t ↔ ∃ pos, Occurs t pos (.named n) := by
  rw [links_eq_filterMap, List.mem_filterMap, ← mem_reading_iff]
  simp only [name?_eq_some_iff, exists_eq_right]

/-! ## First occurrences -/

/-- A thing occurs in a list before another thing does. -/
def Precedes {α : Type} (xs : List α) (a b : α) : Prop :=
  ∃ before after, xs = before ++ a :: after ∧ b ∉ before

theorem Precedes.append {α : Type} {xs : List α} {a b : α} (h : Precedes xs a b) (ys : List α) :
    Precedes (xs ++ ys) a b := by
  obtain ⟨before, after, rfl, hb⟩ := h
  exact ⟨before, after ++ ys, by simp, hb⟩

theorem precedes_of_mem {α : Type} {xs : List α} {a b : α} (ha : a ∈ xs) (hb : b ∉ xs) :
    Precedes xs a b := by
  obtain ⟨before, after, rfl⟩ := List.append_of_mem ha
  exact ⟨before, after, rfl, fun h => hb (List.mem_append_left _ h)⟩

/-- Names that are found one after another stand in the order in which they first occur. The
induction is on the names from the last one: only a name that did not occur yet is added. -/
theorem foldl_addName (names : List String) :
    (∀ n, n ∈ names.foldl addName [] ↔ n ∈ names) ∧
      (names.foldl addName []).Pairwise (Precedes names) := by
  induction names using List.reverseRecOn with
  | nil => exact ⟨fun _ => Iff.rfl, List.Pairwise.nil⟩
  | append_singleton names last ih =>
    obtain ⟨hmem, hpairwise⟩ := ih
    have hold : (names.foldl addName []).Pairwise (Precedes (names ++ [last])) :=
      hpairwise.imp fun h => h.append [last]
    rw [List.foldl_append, List.foldl_cons, List.foldl_nil]
    by_cases hlast : last ∈ names
    · rw [addName, if_pos ((hmem last).2 hlast)]
      refine ⟨fun n => ?_, hold⟩
      rw [hmem, List.mem_append, List.mem_singleton, or_iff_left_of_imp]
      rintro rfl
      exact hlast
    · rw [addName, if_neg fun h => hlast ((hmem last).1 h)]
      refine ⟨fun n => ?_, ?_⟩
      · rw [List.mem_append, hmem, List.mem_append]
      · refine List.pairwise_append.2 ⟨hold, List.pairwise_singleton _ _, fun a ha b hb => ?_⟩
        rw [List.mem_singleton.1 hb]
        exact (precedes_of_mem ((hmem a).1 ha) hlast).append [last]

/-- What precedes in the list of links is met before in the reading. -/
theorem precedes_reading {t : Ty} {m n : String} (h : Precedes (links t) m n) :
    Precedes (reading t) (.named m) (.named n) := by
  obtain ⟨before, after, hlinks, hn⟩ := h
  rw [links_eq_filterMap, List.filterMap_eq_append_iff] at hlinks
  obtain ⟨front, back, hreading, hfront, hback⟩ := hlinks
  obtain ⟨skipped, u, rest, rfl, hskipped, hu, -⟩ := List.filterMap_eq_cons_iff.1 hback
  rw [name?_eq_some_iff] at hu
  subst hu
  refine ⟨front ++ skipped, rest, by rw [hreading, List.append_assoc], fun hmem => ?_⟩
  rcases List.mem_append.1 hmem with hmem | hmem
  · refine hn ?_
    rw [← hfront]
    exact List.mem_filterMap.2 ⟨_, hmem, rfl⟩
  · cases hskipped _ hmem

/-- **The names in a type.** They are the names of the links that occur in it, each once, in the
order in which the reading of the type meets them first. -/
theorem namedTypes_in_reading (t : Ty) :
    (∀ n, n ∈ t.namedTypes ↔ ∃ pos, Occurs t pos (.named n)) ∧
    t.namedTypes.Nodup ∧
    t.namedTypes.Pairwise fun m n => Precedes (reading t) (.named m) (.named n) := by
  obtain ⟨hmem, hpairwise⟩ := foldl_addName (links t)
  rw [← collect_eq_foldl] at hmem hpairwise
  refine ⟨fun n => ?_, ?_, hpairwise.imp precedes_reading⟩
  · exact (hmem n).trans mem_links_iff
  · rw [namedTypes_eq_eraseDups]
    exact Keyed.nodup_eraseDups _

end ApiModel.Ty
