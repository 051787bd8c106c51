import ApiModel.Proofs.Json.LineEnds
import ApiModel.Proofs.Source.Stops

/-!
# A JSON document from any source

Each source has its own rule for the language of a document, refuses what is blank or does not, and
makes line ends one or does not. None of that shows in a document that is a JSON object, unless the
source says that it is YAML: by the suffix of its file, or by a media type that mentions YAML and
not JSON.

Results:

* `hintOfPath_eq_yaml_iff`, `hintOfMediaType_eq_yaml_iff`: when a source says YAML.
* `load_json`: a JSON object is loaded as it is from every source.
-/

namespace ApiModel.Source

/-! ## Hints -/

theorem hintOfPath_eq_yaml_iff {path : String} :
    hintOfPath path = .yaml ↔
      Text.lower (Path.suffix path) = ".yaml" ∨ Text.lower (Path.suffix path) = ".yml" := by
  unfold hintOfPath
  split <;> simp_all

/-- A media type mentions a word. -/
def Mentions (mediaType word : String) : Prop :=
  Text.occursIn word.toList mediaType.toList = true

theorem hintOfMediaType_eq_yaml_iff {mediaType : String} :
    hintOfMediaType mediaType = .yaml ↔
      ¬Mentions mediaType "json" ∧ (Mentions mediaType "yaml" ∨ Mentions mediaType "yml") := by
  unfold hintOfMediaType Mentions
  dsimp only
  split
  · simp_all
  · split <;> simp_all

/-! ## Sources -/

variable {s : Surroundings} {source text : String} {d : Entries}

theorem load_input (h : Json.read s.input = .ok (.map d)) :
    (load s "-").result = .ok (.map d) := by
  change loadInput s = .ok (.map d)
  unfold loadInput
  rw [Json.isBlankText_of_read h, if_neg Bool.false_ne_true]
  exact read_of_json (fun hhint => by cases hhint) h

theorem load_address {mediaType : String} {body : List UInt8} (hurl : IsAddress source)
    (hs : Answers s mediaType body) (hd : (MediaType.charset mediaType).decode body = .ok text)
    (hhint : hintOfMediaType mediaType ≠ .yaml) (h : Json.read text = .ok (.map d)) :
    (load s source).result = .ok (.map d) := by
  obtain ⟨status, hreply, hstatus⟩ := hs
  have hinput : source ≠ "-" := by
    rintro rfl
    exact not_isAddress_input hurl
  unfold IsAddress at hurl
  change loadFrom s source = .ok (.map d)
  unfold loadFrom loadReply
  rw [if_neg hinput, if_pos hurl, hreply]
  dsimp only
  rw [if_pos hstatus, hd]
  exact read_of_json hhint h

theorem load_path {bytes : List UInt8} (hpath : IsPath source)
    (hs : s.files.read? (Path.tidy source) = .ok (some bytes)) (hd : Text.decode? bytes = some text)
    (hhint : hintOfPath source ≠ .yaml) (h : Json.read text = .ok (.map d)) :
    (load s source).result = .ok (.map d) := by
  have hlines := Json.read_translateText h
  obtain ⟨hinput, hurl⟩ := hpath
  unfold IsAddress at hurl
  change loadFrom s source = .ok (.map d)
  unfold loadFrom loadFile textOfBytes
  rw [if_neg hinput, if_neg hurl, hs]
  simp only [hd, bind, Except.bind, Json.isBlankText_of_read hlines, Bool.false_eq_true, if_false]
  exact read_of_json hhint hlines

/-- **A JSON object is loaded as it is**, from standard input, from a file whose suffix does not say
YAML, and from a server whose media type mentions JSON or does not mention YAML. Whether its line
ends are made one does not matter. -/
theorem load_json (h : Json.read text = .ok (.map d)) :
    Json.read (Text.Newline.translateText text) = .ok (.map d) ∧
    (∀ s : Surroundings, s.input = text ∨ s.input = Text.Newline.translateText text →
      (load s "-").result = .ok (.map d)) ∧
    (∀ (s : Surroundings) (path : String) (bytes : List UInt8), IsPath path →
      s.files.read? (Path.tidy path) = .ok (some bytes) → Text.decode? bytes = some text →
      Text.lower (Path.suffix path) ≠ ".yaml" → Text.lower (Path.suffix path) ≠ ".yml" →
      (load s path).result = .ok (.map d)) ∧
    ∀ (s : Surroundings) (url mediaType : String) (body : List UInt8), IsAddress url →
      Answers s mediaType body → (MediaType.charset mediaType).decode body = .ok text →
      (Mentions mediaType "json" ∨ ¬Mentions mediaType "yaml" ∧ ¬Mentions mediaType "yml") →
      (load s url).result = .ok (.map d) := by
  have hlines := Json.read_translateText h
  refine ⟨hlines, fun s hs => ?_, fun s path bytes hpath hs hd hyaml hyml => ?_,
    fun s url mediaType body hurl hs hd hmentions => ?_⟩
  · rcases hs with hs | hs
    · exact load_input (hs ▸ h)
    · exact load_input (hs ▸ hlines)
  · refine load_path hpath hs hd (fun hhint => ?_) h
    exact (hintOfPath_eq_yaml_iff.1 hhint).elim hyaml hyml
  · refine load_address hurl hs hd (fun hhint => ?_) h
    obtain ⟨hjson, hyaml⟩ := hintOfMediaType_eq_yaml_iff.1 hhint
    rcases hmentions with hm | ⟨hno, hno'⟩
    · exact hjson hm
    · exact hyaml.elim hno hno'

/-- A JSON object whose line ends differ: a carriage return and a newline, and one alone. -/
def mixedText : String := "\x7b\"a\":\r\n[\r]\x7d"

/-- The bytes of the text. -/
def mixedBytes : List UInt8 := [0x7b, 0x22, 0x61, 0x22, 0x3a, 0x0d, 0x0a, 0x5b, 0x0d, 0x5d, 0x7d]

/-- Surroundings in which the text is found from every source. -/
def mixedEverywhere : Surroundings where
  files := ⟨[(["a.json"], mixedBytes)], []⟩
  directory := "/"
  environment := []
  input := mixedText
  reply := .answered 200 "text/json" mixedBytes
  crashLog := ""

theorem load_json_mixed :
    Json.read mixedText = .ok (.map [(.text "a", .list [])]) ∧
      ∀ source ∈ ["-", "a.json", "http://a"],
        (load mixedEverywhere source).result = .ok (.map [(.text "a", .list [])]) := by
  have h : Json.read mixedText = .ok (.map [(.text "a", .list [])]) := by cbv
  obtain ⟨-, hinput, hpath, hurl⟩ := load_json h
  refine ⟨h, List.forall_mem_cons.2 ⟨hinput _ (Or.inl rfl), List.forall_mem_cons.2 ⟨?_,
    List.forall_mem_singleton.2 ?_⟩⟩⟩
  · refine hpath mixedEverywhere "a.json" mixedBytes ?_ rfl rfl (by decide +kernel)
      (by decide +kernel)
    unfold IsPath IsAddress
    decide
  · refine hurl mixedEverywhere "http://a" "text/json" mixedBytes ?_ ⟨200, rfl, by decide⟩
      rfl (Or.inl ?_)
    · unfold IsAddress
      decide
    · unfold Mentions
      cbv

end ApiModel.Source
