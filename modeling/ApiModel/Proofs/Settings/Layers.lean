import ApiModel.Proofs.Json.LineEnds
import ApiModel.Proofs.Trace
import ApiModel.Settings.Layers

/-!
# What the layers of settings cover

A setting has the value that the highest layer gives it. What stands below does not show, not even
if it could not be a setting at all; so the settings depend on the values that count and on the
names in the settings file that are none of settings.

Results:

* `lookup_effective`, `checkNames_effective`: the entries that all layers give have the values that
  count, and the unknown names of the settings file.
* `settings_eq_ok_iff`: which settings the layers give.
* `settings_eq_of_covered`: what a layer covers may change at will.
* `layers_cover`: what the layers of a run cover, and which settings it has.
-/

namespace ApiModel.Settings

variable {es es' : Entries} {name key : String} {v : Value}

/-! ## Names -/

/-- A key is the name of a setting. -/
def IsKnown (k : Scalar) : Prop := ∃ name ∈ names, k = .text name

instance : DecidablePred IsKnown :=
  fun k => inferInstanceAs (Decidable (∃ name ∈ names, k = .text name))

/-- The issue with a key that is not the name of a setting. -/
def strayIssue? (k : Scalar) : Option Issue :=
  match k with
  | .text s => if s ∈ names then none else some ⟨[.name s], .unexpected⟩
  | k => some ⟨[.name k.said], .unexpected⟩

theorem strayIssue?_eq_none_iff {k : Scalar} : strayIssue? k = none ↔ IsKnown k := by
  unfold strayIssue? IsKnown
  split
  · rename_i s
    simp
  · rename_i hk
    refine ⟨nofun, ?_⟩
    rintro ⟨name, -, rfl⟩
    exact absurd rfl (hk name)

theorem checkNames_eq (es : Entries) :
    checkNames es = match es.filterMap fun e => strayIssue? e.1 with
      | [] => .ok ()
      | issues => .error issues := rfl

theorem checkNames_eq_ok_iff : checkNames es = .ok () ↔ ∀ e ∈ es, IsKnown e.1 := by
  have hnil : checkNames es = .ok () ↔ (es.filterMap fun e => strayIssue? e.1) = [] := by
    rw [checkNames_eq]
    cases es.filterMap fun e => strayIssue? e.1 <;> simp
  rw [hnil, List.filterMap_eq_nil_iff]
  exact forall₂_congr fun e _ => strayIssue?_eq_none_iff

/-- Names of settings do not count. -/
theorem checkNames_filter (es : Entries) :
    checkNames (es.filter fun e => ¬IsKnown e.1) = checkNames es := by
  rw [checkNames_eq, checkNames_eq, List.filterMap_filter]
  have hskip : ∀ e : Scalar × Value,
      (if decide ¬IsKnown e.1 then strayIssue? e.1 else none) = strayIssue? e.1 := by
    intro e
    by_cases h : IsKnown e.1
    · simp [h, strayIssue?_eq_none_iff.2 h]
    · simp [h]
  simp only [hskip]

/-- Putting in a setting leaves the other names as they are. -/
theorem filter_put {n : String} (hn : n ∈ names) (es : Entries) (v : Value) :
    (Entries.put es (.text n) v).filter (fun e => ¬IsKnown e.1) =
      es.filter fun e => ¬IsKnown e.1 := by
  have hknown : IsKnown (.text n) := ⟨n, hn, rfl⟩
  induction es with
  | nil => simp [Entries.put, hknown]
  | cons e es ih =>
    obtain ⟨k, w⟩ := e
    unfold Entries.put
    split
    · rename_i hk
      rw [Entries.same_text.1 hk]
      simp [hknown]
    · rw [List.filter_cons, List.filter_cons, ih]

/-! ## The values that count -/

/-- The value that a setting has above the settings file. -/
def Layers.above? (l : Layers) (name : String) : Option Value :=
  if name = "log_level" then (l.commandLevel <|> l.environmentLevel).map .text
  else if name = "json_media_types" then
    l.environmentMediaTypes.map fun types => .list (types.map .text)
  else none

/-- The value that counts for a setting: that of the highest layer that has one. -/
def Layers.value (l : Layers) (name : String) : Value :=
  (l.above? name <|> l.project.lookup (.text name)).getD (({} : Settings).toValue.getD name)

theorem lookup_effective (l : Layers) (name : String) :
    l.effective.lookup (.text name) = (l.above? name <|> l.project.lookup (.text name)) := by
  unfold Layers.effective Layers.above? Layers.level?
  dsimp only
  by_cases hlevel : name = "log_level"
  · subst hlevel
    cases l.environmentMediaTypes <;> cases l.commandLevel <|> l.environmentLevel <;>
      simp [Entries.lookup_put_self, Entries.lookup_put_of_ne]
  · by_cases htypes : name = "json_media_types"
    · subst htypes
      cases l.environmentMediaTypes <;> cases l.commandLevel <|> l.environmentLevel <;>
        simp [Entries.lookup_put_self, Entries.lookup_put_of_ne]
    · cases l.environmentMediaTypes <;> cases l.commandLevel <|> l.environmentLevel <;>
        simp [Entries.lookup_put_of_ne, hlevel, htypes]

theorem checkNames_effective (l : Layers) : checkNames l.effective = checkNames l.project := by
  rw [← checkNames_filter, ← checkNames_filter l.project]
  unfold Layers.effective
  dsimp only
  have hlevel := @filter_put "log_level" (by decide)
  have htypes := @filter_put "json_media_types" (by decide)
  cases l.environmentMediaTypes <;> cases l.level? <;> simp only [hlevel, htypes]

/-! ## The settings of the layers -/

section Part

variable {α : Type} {f : Value → Checked α} {absent : Checked α}

/-- A part that stands for a missing one passes when it does. -/
theorem part_eq_ok_iff {fallback : Value} {a b : α} (hb : f fallback = .ok b) :
    ((Value.map es).part key (.ok b) fun w _ => f w) = .ok a ↔
      f ((es.lookup (.text key)).getD fallback) = .ok a := by
  rw [Value.part_eq, Value.get?_map]
  cases es.lookup (.text key) with
  | none => rw [Option.getD_none, hb]
  | some w => exact Checked.within_eq_ok_iff

theorem part_congr (h : es.lookup (.text key) = es'.lookup (.text key)) :
    ((Value.map es).part key absent fun w _ => f w) =
      (Value.map es').part key absent fun w _ => f w := by
  rw [Value.part_eq, Value.part_eq, Value.get?_map, Value.get?_map, h]

end Part

/-- The media types that a value lists. -/
def checkMediaTypes (v : Value) : Checked (List String) :=
  v.sequence .notSequence fun m _ => m.checkText

/-- Each setting is what the check of its value makes of it. -/
structure Reads (value : String → Value) (s : Settings) : Prop where
  /-- The media types are those that are listed. -/
  mediaTypes : checkMediaTypes (value "json_media_types") = .ok s.jsonMediaTypes
  /-- Suffixes are accepted if the value is true. -/
  suffix : (value "accept_json_suffix").checkTruth = .ok s.acceptJsonSuffix
  /-- Declarations are put into order if the value is true. -/
  sort : (value "sort_declarations").checkTruth = .ok s.sortDeclarations
  /-- The word for the threshold is the level that is given, in upper case. -/
  level : ∃ level, (value "log_level").checkText = .ok level ∧ s.threshold.word = Text.upper level

/-- Entries whose keys are known give the settings that their values give. A default passes the
check of its own setting. -/
theorem ofEntries_eq_ok_iff {s : Settings} :
    ofEntries es = .ok s ↔ checkNames es = .ok () ∧
      Reads (fun name => (es.lookup (.text name)).getD (({} : Settings).toValue.getD name)) s := by
  have hlevel : Threshold.check (({} : Settings).toValue.getD "log_level") = .ok .warning := by
    rw [Threshold.check_eq_ok_iff]
    exact ⟨"WARNING", rfl, by decide +kernel⟩
  unfold ofEntries
  refine map_eq_ok_iff.trans ?_
  constructor
  · rintro ⟨⟨⟨⟨types, suffix⟩, sort, threshold⟩, ⟨⟩⟩, h, rfl⟩
    simp only [Checked.both_eq_ok_iff] at h
    obtain ⟨⟨⟨htypes, hsuffix⟩, hsort, hthreshold⟩, hnames⟩ := h
    refine ⟨hnames, ?_, ?_, ?_, ?_⟩
    · exact (part_eq_ok_iff (f := checkMediaTypes) rfl).1 htypes
    · exact (part_eq_ok_iff (f := Value.checkTruth) rfl).1 hsuffix
    · exact (part_eq_ok_iff (f := Value.checkTruth) rfl).1 hsort
    · exact Threshold.check_eq_ok_iff.1 ((part_eq_ok_iff hlevel).1 hthreshold)
  · rintro ⟨hnames, h⟩
    refine ⟨(((s.jsonMediaTypes, s.acceptJsonSuffix), (s.sortDeclarations, s.threshold)), ()), ?_,
      rfl⟩
    simp only [Checked.both_eq_ok_iff]
    refine ⟨⟨⟨?_, ?_⟩, ?_, ?_⟩, hnames⟩
    · exact (part_eq_ok_iff (f := checkMediaTypes) rfl).2 h.mediaTypes
    · exact (part_eq_ok_iff (f := Value.checkTruth) rfl).2 h.suffix
    · exact (part_eq_ok_iff (f := Value.checkTruth) rfl).2 h.sort
    · exact (part_eq_ok_iff hlevel).2 (Threshold.check_eq_ok_iff.2 h.level)

/-- A value can stand for a setting. -/
def Accepts (name : String) (v : Value) : Prop :=
  match name with
  | "json_media_types" => ∃ types, checkMediaTypes v = .ok types
  | "log_level" => ∃ level, v.checkText = .ok level ∧ ∃ t : Threshold, t.word = Text.upper level
  | _ => ∃ b, v.checkTruth = .ok b

/-- There are settings for values just when each value can stand for its own. -/
theorem exists_reads_iff {value : String → Value} :
    (∃ s, Reads value s) ↔ ∀ name ∈ names, Accepts name (value name) := by
  constructor
  · rintro ⟨s, htypes, hsuffix, hsort, level, hlevel, ht⟩
    simp only [names, List.forall_mem_cons]
    exact ⟨⟨_, htypes⟩, ⟨_, hsuffix⟩, ⟨_, hsort⟩, ⟨level, hlevel, _, ht⟩, nofun⟩
  · intro h
    simp only [names, List.forall_mem_cons] at h
    obtain ⟨⟨types, htypes⟩, ⟨suffix, hsuffix⟩, ⟨sort, hsort⟩, ⟨level, hlevel, t, ht⟩, -⟩ := h
    exact ⟨⟨types, suffix, sort, t⟩, htypes, hsuffix, hsort, level, hlevel, ht⟩

/-- The layers give the settings that the values that count give, if the names in the settings file
are known. -/
theorem settings_eq_ok_iff {l : Layers} {s : Settings} :
    l.settings = .ok s ↔ (∀ e ∈ l.project, IsKnown e.1) ∧ Reads l.value s := by
  have hsettings : l.settings = .ok s ↔ ofEntries l.effective = .ok s := by
    unfold Layers.settings
    cases ofEntries l.effective <;> simp [Except.mapError]
  rw [hsettings, ofEntries_eq_ok_iff, checkNames_effective, checkNames_eq_ok_iff]
  simp only [lookup_effective]
  rfl

/-! ## What is covered -/

/-- Entries with the same values of settings and the same unknown names have one outcome. -/
theorem ofEntries_congr
    (hvalues : ∀ name ∈ names, es.lookup (.text name) = es'.lookup (.text name))
    (hnames : checkNames es = checkNames es') : ofEntries es = ofEntries es' := by
  unfold ofEntries
  dsimp only
  rw [part_congr (hvalues "json_media_types" (by decide)),
    part_congr (hvalues "accept_json_suffix" (by decide)),
    part_congr (hvalues "sort_declarations" (by decide)),
    part_congr (hvalues "log_level" (by decide)), hnames]

/-- Two maps differ at most in what they have under a name: in its value, in its place, or in that
one of them has it. -/
def SameBut (name : String) (es es' : Entries) : Prop :=
  es.filter (fun e => e.1 ≠ .text name) = es'.filter fun e => e.1 ≠ .text name

theorem SameBut.lookup (h : SameBut name es es') (hkey : key ≠ name) :
    es.lookup (.text key) = es'.lookup (.text key) := by
  have hfilter (fs : Entries) :
      (fs.filter fun e => e.1 ≠ .text name).lookup (.text key) = fs.lookup (.text key) := by
    induction fs with
    | nil => rfl
    | cons e fs ih =>
      obtain ⟨k, w⟩ := e
      by_cases hk : k = .text name
      · subst hk
        have hne : (Scalar.text key == .text name) = false := by simpa using hkey
        simpa [List.lookup_cons, hne] using ih
      · rw [List.filter_cons_of_pos (by simpa using hk), List.lookup_cons, List.lookup_cons, ih]
  rw [← hfilter es, h, hfilter es']

theorem SameBut.checkNames (h : SameBut name es es') (hname : name ∈ names) :
    checkNames es = checkNames es' := by
  have hfilter (fs : Entries) :
      (fs.filter fun e => e.1 ≠ .text name).filter (fun e => ¬IsKnown e.1) =
        fs.filter fun e => ¬IsKnown e.1 := by
    rw [List.filter_filter]
    refine List.filter_congr fun e _ => ?_
    have hne : ¬IsKnown e.1 → e.1 ≠ .text name := fun hk he => hk ⟨name, hname, he⟩
    simpa using hne
  rw [← checkNames_filter es, ← checkNames_filter es', ← hfilter es, h, hfilter es']

/-- What a layer covers may change at will. -/
theorem settings_eq_of_covered {l l' : Layers} (hname : name ∈ names)
    (hcovered : (l.above? name).isSome) (habove : ∀ n, l.above? n = l'.above? n)
    (h : SameBut name l.project l'.project) : l.settings = l'.settings := by
  have heffective : ofEntries l.effective = ofEntries l'.effective := by
    refine ofEntries_congr (fun n _ => ?_) ?_
    · rw [lookup_effective, lookup_effective, ← habove n]
      by_cases hn : n = name
      · subst hn
        obtain ⟨v, hv⟩ := Option.isSome_iff_exists.1 hcovered
        rw [hv]
        rfl
      · rw [h.lookup hn]
    · rw [checkNames_effective, checkNames_effective, h.checkNames hname]
  unfold Layers.settings
  rw [heffective]

/-! ## A run -/

/-- The settings file of a run has these entries; it may be missing if there are none. -/
def Finds (s : Surroundings) (start : Option String) (es : Entries) : Prop :=
  ∃ p, project? s start = .ok p ∧ es = p.getD []

/-- The layers of a run. -/
def Layers.of (s : Surroundings) (es : Entries) (commandLevel : Option String) : Layers where
  project := es
  environmentLevel := s.filled "SPECIR_LOG_LEVEL"
  environmentMediaTypes := (s.filled "SPECIR_JSON_MEDIA_TYPES").map commaItems
  commandLevel

theorem resolve_eq {s : Surroundings} {start : Option String} (h : Finds s start es)
    (command : Option String) : resolve s start command = (Layers.of s es command).settings := by
  obtain ⟨p, hp, rfl⟩ := h
  unfold resolve
  rw [hp]
  rfl

/-- A JSON object in the settings file is what is found there. -/
theorem finds_of_json {s : Surroundings} {start : Option String} {bytes : List UInt8}
    {text : String}
    (hs : s.files.read? (Path.within (start.getD ".") fileName) = .ok (some bytes))
    (hd : Text.decode? bytes = some text) (h : Json.read text = .ok (.map es)) :
    Finds s start es := by
  refine ⟨some es, ?_, rfl⟩
  unfold project? readFile Source.textOfBytes
  rw [hs]
  simp only [hd, bind, Except.bind, Json.read_translateText h]
  rfl

/-- **Layers cover each other.** A level among the arguments covers that of the environment and that
of the settings file; a level of the environment, and media types of the environment, cover those of
the settings file. There are settings just when the settings file has no unknown name and each value
that counts can stand for its setting, and then they are what these values make of them. -/
theorem layers_cover :
    (∀ (s s' : Surroundings) (start start' : Option String) (es es' : Entries) (level : String),
      Finds s start es → Finds s' start' es' → SameBut "log_level" es es' →
      s.filled "SPECIR_JSON_MEDIA_TYPES" = s'.filled "SPECIR_JSON_MEDIA_TYPES" →
      resolve s start (some level) = resolve s' start' (some level)) ∧
    (∀ (s s' : Surroundings) (start start' command : Option String) (es es' : Entries)
      (level : String), Finds s start es → Finds s' start' es' → SameBut "log_level" es es' →
      s.filled "SPECIR_JSON_MEDIA_TYPES" = s'.filled "SPECIR_JSON_MEDIA_TYPES" →
      s.filled "SPECIR_LOG_LEVEL" = some level → s'.filled "SPECIR_LOG_LEVEL" = some level →
      resolve s start command = resolve s' start' command) ∧
    (∀ (s s' : Surroundings) (start start' command : Option String) (es es' : Entries)
      (types : String), Finds s start es → Finds s' start' es' →
      SameBut "json_media_types" es es' →
      s.filled "SPECIR_JSON_MEDIA_TYPES" = some types →
      s'.filled "SPECIR_JSON_MEDIA_TYPES" = some types →
      s.filled "SPECIR_LOG_LEVEL" = s'.filled "SPECIR_LOG_LEVEL" →
      resolve s start command = resolve s' start' command) ∧
    ∀ (s : Surroundings) (start command : Option String) (es : Entries), Finds s start es →
      ((∃ settings, resolve s start command = .ok settings) ↔
        (∀ e ∈ es, IsKnown e.1) ∧
          ∀ name ∈ names, Accepts name ((Layers.of s es command).value name)) ∧
      ∀ settings, resolve s start command = .ok settings →
        Reads (Layers.of s es command).value settings := by
  refine ⟨?_, ?_, ?_, ?_⟩
  · intro s s' start start' es es' level h h' hsame htypes
    rw [resolve_eq h, resolve_eq h']
    refine settings_eq_of_covered (by decide) rfl (fun n => ?_) hsame
    simp only [Layers.above?, Layers.of, htypes]
    rfl
  · intro s s' start start' command es es' level h h' hsame htypes hlevel hlevel'
    rw [resolve_eq h, resolve_eq h']
    refine settings_eq_of_covered (by decide) ?_ (fun n => ?_) hsame
    · simp only [Layers.above?, Layers.of, hlevel]
      cases command <;> rfl
    · simp only [Layers.above?, Layers.of, htypes, hlevel, hlevel']
  · intro s s' start start' command es es' types h h' hsame htypes htypes' hlevel
    rw [resolve_eq h, resolve_eq h']
    refine settings_eq_of_covered (by decide) ?_ (fun n => ?_) hsame
    · simp only [Layers.above?, Layers.of, htypes]
      rfl
    · simp only [Layers.above?, Layers.of, htypes, htypes', hlevel]
  · intro s start command es h
    rw [resolve_eq h]
    refine ⟨?_, fun settings hs => (settings_eq_ok_iff.1 hs).2⟩
    simp only [settings_eq_ok_iff, ← exists_reads_iff, exists_and_left]
    rfl

/-- A run with a level and media types in its environment, and some bytes as its settings file. -/
def runWith (bytes : List UInt8) : Surroundings where
  files := ⟨[(["specir.json"], bytes)], []⟩
  directory := "/"
  environment := [("SPECIR_LOG_LEVEL", "info"), ("SPECIR_JSON_MEDIA_TYPES", "a/b")]
  input := ""
  reply := .unreachable ""
  crashLog := ""

/-- The bytes of an empty object. -/
def noSettings : List UInt8 := [0x7b, 0x7d]

/-- The bytes of an object whose level is an empty list. -/
def badLevel : List UInt8 :=
  [0x7b, 0x22, 0x6c, 0x6f, 0x67, 0x5f, 0x6c, 0x65, 0x76, 0x65, 0x6c, 0x22, 0x3a, 0x5b, 0x5d, 0x7d]

/-- The bytes of an object whose media types are an empty object. -/
def badTypes : List UInt8 :=
  [0x7b, 0x22, 0x6a, 0x73, 0x6f, 0x6e, 0x5f, 0x6d, 0x65, 0x64, 0x69, 0x61, 0x5f, 0x74, 0x79, 0x70,
    0x65, 0x73, 0x22, 0x3a, 0x7b, 0x7d, 0x7d]

theorem layers_cover_bad :
    resolve (runWith badLevel) none (some "debug") =
      resolve (runWith noSettings) none (some "debug") ∧
    resolve (runWith badLevel) none none = resolve (runWith noSettings) none none ∧
    resolve (runWith badTypes) none none = resolve (runWith noSettings) none none ∧
    resolve (runWith noSettings) none none = .ok ⟨["a/b"], true, true, .info⟩ ∧
    Reads (Layers.of (runWith noSettings) [] none).value ⟨["a/b"], true, true, .info⟩ := by
  have hread (bytes : List UInt8) :
      (runWith bytes).files.read? (Path.within ((none : Option String).getD ".") fileName) =
        .ok (some bytes) := rfl
  have hnone : Finds (runWith noSettings) none [] := by
    have htext : Text.decode? noSettings = some "\x7b\x7d" := rfl
    exact finds_of_json (hread _) htext (by cbv)
  have hlevel : Finds (runWith badLevel) none [(.text "log_level", .list [])] := by
    have htext : Text.decode? badLevel = some "\x7b\"log_level\":[]\x7d" := rfl
    exact finds_of_json (hread _) htext (by cbv)
  have htypes : Finds (runWith badTypes) none [(.text "json_media_types", .map [])] := by
    have htext : Text.decode? badTypes = some "\x7b\"json_media_types\":\x7b\x7d\x7d" := rfl
    exact finds_of_json (hread _) htext (by cbv)
  have hok : resolve (runWith noSettings) none none = .ok ⟨["a/b"], true, true, .info⟩ := by
    rw [resolve_eq hnone]
    rfl
  obtain ⟨hcommand, henvironment, hlisted, hreads⟩ := layers_cover
  refine ⟨hcommand _ _ none none _ _ "debug" hlevel hnone rfl rfl,
    henvironment _ _ none none none _ _ "info" hlevel hnone rfl rfl rfl rfl,
    hlisted _ _ none none none _ _ "a/b" htypes hnone rfl rfl rfl rfl, hok,
    (hreads _ none none _ hnone).2 _ hok⟩

end ApiModel.Settings
