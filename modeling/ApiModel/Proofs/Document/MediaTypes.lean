import ApiModel.Document.RequestBody
import ApiModel.Proofs.Trace
import Mathlib.Data.List.TakeWhile

/-!
# Two rules for JSON

Which media types count as JSON is said twice. `Settings.isJson` looks at the essence of a media
type, without its parameters and in lower case. `pick` first looks for the media types of the
settings as they are written, and only then asks `isJson`. So the rules differ about a media type of
the settings whose essence is not among them, since it is written with parameters or with blanks
around it. They agree if there is none.

Results:

* `pick_texts`: what is picked of media types that are texts.
* `isJson_of_plain`: a media type of the settings that is written plainly counts as JSON.
* `rules_agree_iff`: for which settings the rules agree on all media types.
-/

namespace ApiModel

/-! ## Media types that are written plainly -/

namespace Settings

variable {settings : Settings} {m : String}

/-- A media type is written without parameters and without blanks around it. -/
def IsPlain (mediaType : String) : Prop :=
  ';' ∉ mediaType.toList ∧ Text.strip mediaType.toList = mediaType.toList

instance : Decidable (IsPlain m) := inferInstanceAs (Decidable (_ ∧ _))

theorem essence_of_plain (h : IsPlain m) : essence m = Text.lower m := by
  obtain ⟨hsemicolon, hstrip⟩ := h
  have hwhole : m.toList.takeWhile (· ≠ ';') = m.toList := by
    rw [List.takeWhile_eq_self_iff]
    intro c hc
    rw [decide_eq_true_eq]
    rintro rfl
    exact hsemicolon hc
  rw [essence, hwhole, hstrip, String.ofList_toList]

/-- A media type of the settings that is written plainly counts as JSON, in upper or lower case. -/
theorem isJson_of_plain (hm : m ∈ settings.jsonMediaTypes) (h : IsPlain m) :
    settings.isJson m = true :=
  isJson_of_mem hm (essence_of_plain h)

end Settings

namespace Document

variable {settings : Settings} {types : List String}

/-! ## Picking texts -/

theorem firstJson_texts (settings : Settings) (types : List String) :
    firstJson settings (types.map .text) = .ok (types.find? settings.isJson) := by
  induction types with
  | nil => rfl
  | cons t types ih =>
    rw [List.map_cons, firstJson, List.find?_cons]
    cases ht : settings.isJson t with
    | true =>
      simp only [countsAsJson, ht]
      rfl
    | false =>
      simp only [countsAsJson, ht]
      exact ih

/-- Of media types that are texts the first one of the settings is picked, or else the first that
counts as JSON. -/
theorem pick_texts (settings : Settings) (types : List String) :
    pick settings (types.map .text) =
      .ok ((settings.jsonMediaTypes.find? fun m => types.contains m).or
        (types.find? settings.isJson)) := by
  have hlisted : ∀ m, (types.map Value.text).any (·.isText m) = types.contains m := by
    intro m
    rw [List.any_map, List.contains_eq_any_beq]
    congr 1
    funext t
    simp [Value.isText, Value.text?, Bool.beq_comm (a := t)]
  unfold pick
  simp only [hlisted]
  cases settings.jsonMediaTypes.find? fun m => types.contains m with
  | some m => rfl
  | none => exact firstJson_texts settings types

/-! ## Where the rules agree -/

/-- The two rules agree on media types: one is picked exactly if one counts as JSON, and the one
that is picked is among them and counts as JSON. -/
def RulesAgree (settings : Settings) (types : List String) : Prop :=
  ∃ picked, pick settings (types.map .text) = .ok picked ∧
    (picked.isSome = true ↔ ∃ t ∈ types, settings.isJson t = true) ∧
    ∀ t, picked = some t → t ∈ types ∧ settings.isJson t = true

/-- Whether the rules agree or not, what is picked counts as JSON or stands in the settings as it
is, and something is picked if there is such a media type. -/
theorem picked_of_texts (settings : Settings) (types : List String) :
    ∃ picked, pick settings (types.map .text) = .ok picked ∧
      (picked.isSome = true ↔
        ∃ t ∈ types, settings.isJson t = true ∨ t ∈ settings.jsonMediaTypes) ∧
      ∀ t, picked = some t →
        t ∈ types ∧ (settings.isJson t = true ∨ t ∈ settings.jsonMediaTypes) := by
  refine ⟨_, pick_texts settings types, ?_, fun t ht => ?_⟩
  · rw [Option.isSome_or, Bool.or_eq_true, List.find?_isSome, List.find?_isSome]
    constructor
    · rintro (⟨m, hm, hlisted⟩ | ⟨t, ht, hjson⟩)
      · exact ⟨m, List.contains_iff_mem.1 hlisted, Or.inr hm⟩
      · exact ⟨t, ht, Or.inl hjson⟩
    · rintro ⟨t, ht, hjson | hm⟩
      · exact Or.inr ⟨t, ht, hjson⟩
      · exact Or.inl ⟨t, hm, List.contains_iff_mem.2 ht⟩
  · rcases Option.or_eq_some_iff.1 ht with hm | ⟨-, hm⟩
    · have hlisted := List.find?_some hm
      exact ⟨List.contains_iff_mem.1 hlisted, Or.inr (List.mem_of_find?_eq_some hm)⟩
    · exact ⟨List.mem_of_find?_eq_some hm, Or.inl (List.find?_some hm)⟩

/-- On the media types of one list the rules agree if all of them that stand in the settings count
as JSON. -/
theorem rulesAgree_of_isJson
    (h : ∀ m ∈ settings.jsonMediaTypes, m ∈ types → settings.isJson m = true) :
    RulesAgree settings types := by
  obtain ⟨picked, hpick, hsome, hpicked⟩ := picked_of_texts settings types
  have hcounts : ∀ t ∈ types, settings.isJson t = true ∨ t ∈ settings.jsonMediaTypes →
      settings.isJson t = true := by
    rintro t ht (hjson | hm)
    · exact hjson
    · exact h t hm ht
  refine ⟨picked, hpick, hsome.trans ⟨?_, ?_⟩, fun t ht => ?_⟩
  · rintro ⟨t, ht, hjson⟩
    exact ⟨t, ht, hcounts t ht hjson⟩
  · rintro ⟨t, ht, hjson⟩
    exact ⟨t, ht, Or.inl hjson⟩
  · obtain ⟨hmem, hjson⟩ := hpicked t ht
    exact ⟨hmem, hcounts t hmem hjson⟩

/-- A media type of the settings that does not count as JSON is picked all the same if it is the
only one. -/
theorem isJson_of_rulesAgree {m : String} (hm : m ∈ settings.jsonMediaTypes)
    (h : RulesAgree settings [m]) : settings.isJson m = true := by
  obtain ⟨picked, hpick, -, hpicked⟩ := h
  obtain ⟨picked', hpick', hsome, -⟩ := picked_of_texts settings [m]
  cases hpick.symm.trans hpick'
  have hany := hsome.2 ⟨m, List.mem_singleton_self m, Or.inr hm⟩
  obtain ⟨t, rfl⟩ := Option.isSome_iff_exists.1 hany
  obtain ⟨hmem, hjson⟩ := hpicked t rfl
  rwa [List.mem_singleton.1 hmem] at hjson

/-- The rules agree on every list of media types if each one of the settings counts as JSON, and for
no other settings. Those that are written without parameters and without blanks around them do. In
any case something is picked, without a failure, exactly if a media type counts as JSON or stands in
the settings as it is. -/
theorem rules_agree_iff (settings : Settings) :
    ((∀ types, RulesAgree settings types) ↔
        ∀ m ∈ settings.jsonMediaTypes, settings.isJson m = true) ∧
      (∀ m ∈ settings.jsonMediaTypes, Settings.IsPlain m → settings.isJson m = true) ∧
      ∀ types : List String, ∃ picked, pick settings (types.map .text) = .ok picked ∧
        (picked.isSome = true ↔
          ∃ t ∈ types, settings.isJson t = true ∨ t ∈ settings.jsonMediaTypes) ∧
        ∀ t, picked = some t →
          t ∈ types ∧ (settings.isJson t = true ∨ t ∈ settings.jsonMediaTypes) := by
  refine ⟨⟨fun h m hm => ?_, fun h types => ?_⟩, fun m hm hplain => ?_,
    picked_of_texts settings⟩
  · exact isJson_of_rulesAgree hm (h [m])
  · exact rulesAgree_of_isJson fun m hm _ => h m hm
  · exact Settings.isJson_of_plain hm hplain

/-- Settings by which one media type counts as JSON, and no other. -/
def only (mediaType : String) : Settings :=
  { jsonMediaTypes := [mediaType], acceptJsonSuffix := false }

/-- The rules agree if the one media type is written plainly, and differ about it if it is written
with a parameter. -/
theorem rules_agree_iff_only :
    (∀ types, RulesAgree (only "Text/Plain") types) ∧
      ¬ RulesAgree (only "text/plain; charset=utf-8") ["text/plain; charset=utf-8"] := by
  have hplain : Settings.IsPlain "Text/Plain" := by decide
  refine ⟨(rules_agree_iff _).1.2 fun m hm => ?_, fun h => ?_⟩
  · obtain rfl := List.mem_singleton.1 hm
    exact (rules_agree_iff _).2.1 _ hm hplain
  · exact absurd (isJson_of_rulesAgree (List.mem_singleton_self _) h) (by decide)

end Document

end ApiModel
