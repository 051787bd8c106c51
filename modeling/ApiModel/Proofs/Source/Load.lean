import ApiModel.Source.Load
import ApiModel.Proofs.Json.Read
import ApiModel.Proofs.Yaml.Read

/-!
# What is loaded

Whatever the source and the language of a document, no map in it has one key twice.

* `wellFormed_of_load`: every document that is loaded is well-formed, and a map.
-/

namespace ApiModel.Source

variable {v w : Value}

theorem requireMap_eq_ok_iff : requireMap v = .ok w ↔ ∃ es, v = .map es ∧ w = .map es := by
  unfold requireMap
  split
  · simp [eq_comm]
  · simp
  · rename_i hmap _
    refine ⟨nofun, ?_⟩
    rintro ⟨es, rfl, -⟩
    exact absurd rfl (hmap es)

theorem wellFormed_of_readYaml {complaint : Option String} {content : String}
    (h : readYaml complaint content = .ok v) : v.WellFormed ∧ ∃ es, v = .map es := by
  unfold readYaml at h
  split at h
  · rename_i hread
    obtain ⟨es, rfl, rfl⟩ := requireMap_eq_ok_iff.1 h
    exact ⟨Yaml.wellFormed_of_read hread, es, rfl⟩
  · cases h
  · cases h

/-- Every document that is read is a well-formed map. -/
theorem wellFormed_of_read {hint : Hint} {content : String} (h : read hint content = .ok v) :
    v.WellFormed ∧ ∃ es, v = .map es := by
  unfold read at h
  split at h
  · exact wellFormed_of_readYaml h
  · split at h
    · rename_i hread
      obtain ⟨es, rfl, rfl⟩ := requireMap_eq_ok_iff.1 h
      exact ⟨Json.wellFormed_of_read hread, es, rfl⟩
    · cases h
    · cases h
    · dsimp only at h
      split at h
      · cases h
      · exact wellFormed_of_readYaml h

/-- Every document that is loaded is a well-formed map. -/
theorem wellFormed_of_load {s : Surroundings} {source : String}
    (h : (load s source).result = .ok v) : v.WellFormed ∧ ∃ es, v = .map es := by
  have h : loadFrom s source = .ok v := h
  unfold loadFrom at h
  split at h
  · unfold loadInput at h
    split at h
    · cases h
    · exact wellFormed_of_read h
  · split at h
    · unfold loadReply at h
      split at h
      · cases h
      · split at h
        · split at h
          · exact wellFormed_of_read h
          · cases h
        · cases h
    · unfold loadFile at h
      split at h
      · cases h
      · cases h
      · obtain ⟨content, -, h⟩ := bind_eq_ok_iff.1 h
        split at h
        · cases h
        · exact wellFormed_of_read h

end ApiModel.Source
