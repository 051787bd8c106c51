import ApiModel.Settings.Layers
import ApiModel.Proofs.Json.Refusal
import ApiModel.Proofs.Source.Load

/-!
# When reading stops short

Reading a document or the settings is to end in a map or in a failure of its own category, which has
a wording and an exit code. It stops short of that, in a fault, where a step before or inside the
readers has no complaint to make: a path that is too long, bytes that encode no text, and a content
on which the reader of JSON or that of YAML gives up.

Results:

* `Source.ends_load`: loading a document ends as it should, but for the stops named.
* `Settings.ends_resolve`: so does reading the settings.
-/

namespace ApiModel

/-! ## Ways to end -/

/-- A failure belongs to a category, exits with its code, and comes to light as it is. -/
structure Failure.ToldAs (category : Category) (e : Failure) : Prop where
  /-- It belongs to the category. -/
  belongs : e.category? = some category
  /-- It exits with the code of the category. -/
  exits : e.exitCode = category.exitCode
  /-- It quotes nothing that cannot be written. -/
  sayable : e.surfaced = e

/-- A result is as it should be; or it is a failure of a category, or a fault for one of the given
stops. Each stop ends in its fault. -/
structure Ends {α : Type} (category : Category) (good : α → Prop) (stops : Fault → Prop)
    (r : Except Failure α) : Prop where
  /-- A success is as it should be. -/
  good : ∀ a, r = .ok a → good a
  /-- A failure is one of the category, or a fault. -/
  told : ∀ e, r = .error e → e.ToldAs category ∨ ∃ f, e = .fault f
  /-- The faults are those of the stops. -/
  stopped : ∀ f, r = .error (.fault f) ↔ stops f

namespace Ends

variable {α β : Type} {category : Category} {good : α → Prop} {stops : Fault → Prop}

theorem ok {a : α} (ha : good a) (hno : ∀ f, ¬stops f) : Ends category good stops (.ok a) where
  good b hb := by
    cases hb
    exact ha
  told := nofun
  stopped f := ⟨nofun, fun h => absurd h (hno f)⟩

theorem failed {e : Failure} (he : e.ToldAs category) (hno : ∀ f, ¬stops f) :
    Ends category good stops (.error e) where
  good := nofun
  told e' he' := by
    cases he'
    exact Or.inl he
  stopped f := by
    refine ⟨fun h => ?_, fun h => absurd h (hno f)⟩
    cases h
    cases he.belongs

theorem fault {f : Fault} (h : ∀ g, stops g ↔ g = f) :
    Ends category good stops (.error (.fault f)) where
  good := nofun
  told e he := by
    cases he
    exact Or.inr ⟨f, rfl⟩
  stopped g := by
    rw [h g]
    constructor
    · intro he
      cases he
      rfl
    · rintro rfl
      rfl

theorem congr {stops' : Fault → Prop} {r : Except Failure α} (h : Ends category good stops r)
    (hs : ∀ f, stops' f ↔ stops f) : Ends category good stops' r :=
  ⟨h.good, h.told, fun f => (h.stopped f).trans (hs f).symm⟩

/-- A second step that runs into no fault adds no stop. -/
theorem bind {good' : β → Prop} {x : Except Failure α} {g : α → Except Failure β}
    (hx : Ends category good stops x)
    (hg : ∀ a, x = .ok a → Ends category good' (fun _ => False) (g a)) :
    Ends category good' stops (x >>= g) := by
  cases hr : x with
  | error e =>
    rw [hr] at hx
    refine ⟨nofun, fun e' he => hx.told e' ?_, fun f => (hx.stopped f).symm.trans ?_ |>.symm⟩
    · cases he
      rfl
    · exact ⟨fun h => by cases h; rfl, fun h => by cases h; rfl⟩
  | ok a =>
    have h := hg a hr
    rw [hr] at hx
    refine ⟨h.good, h.told, fun f => ?_⟩
    exact (h.stopped f).trans ⟨False.elim, fun hf => by cases (hx.stopped f).2 hf⟩

end Ends

/-! ## Contents -/

namespace Source

variable {hint : Hint} {content : String}

/-- A document is a map. -/
def IsDocument (v : Value) : Prop := ∃ entries, v = .map entries

/-- A content is read as YAML: so the hint says, or nothing is known and it is no JSON. -/
def ReadAsYaml (hint : Hint) (content : String) : Prop :=
  hint = .yaml ∨
    hint = .unknown ∧ ∃ problem place, Json.read content = .error (.malformed problem place)

/-- One of the readers gives up on a content, in a fault. -/
inductive ReaderStops (hint : Hint) (content : String) (f : Fault) : Prop where
  /-- The reader of JSON does. -/
  | json (hh : hint ≠ .yaml) (h : Json.Stops content f)
  /-- The reader of YAML does. -/
  | yaml (hh : ReadAsYaml hint content) (h : Yaml.read content = .error (.fault f))

theorem ends_requireMap {stops : Fault → Prop} (v : Value) (hno : ∀ f, ¬stops f) :
    Ends .document IsDocument stops (requireMap v) := by
  unfold requireMap
  split
  · exact .ok ⟨_, rfl⟩ hno
  · exact .failed ⟨rfl, rfl, rfl⟩ hno
  · exact .failed ⟨rfl, rfl, rfl⟩ hno

theorem ends_readYaml (complaint : Option String) (content : String) :
    Ends .document IsDocument (fun f => Yaml.read content = .error (.fault f))
      (readYaml complaint content) := by
  unfold readYaml
  split
  · rename_i h
    exact ends_requireMap _ fun f hf => by cases h.symm.trans hf
  · rename_i h
    exact .failed ⟨rfl, rfl, rfl⟩ fun f hf => by cases h.symm.trans hf
  · rename_i h
    refine .fault fun g => ⟨fun hg => ?_, fun hg => ?_⟩
    · cases h.symm.trans hg
      rfl
    · rw [hg, h]

theorem readerStops_iff_of_yaml (hh : ReadAsYaml hint content) {f : Fault} :
    ReaderStops hint content f ↔ Yaml.read content = .error (.fault f) := by
  refine ⟨fun h => ?_, .yaml hh⟩
  cases h with
  | yaml _ h => exact h
  | json hne hstops =>
    -- what is no JSON does not stop the reader of JSON
    rcases hh with rfl | ⟨-, problem, place, hjson⟩
    · exact absurd rfl hne
    · cases hstops with
      | tooLong h => cases hjson.symm.trans h
      | tooDeep h => cases hjson.symm.trans h

theorem readerStops_iff_of_json (hh : ¬ReadAsYaml hint content) {f : Fault} :
    ReaderStops hint content f ↔ Json.Stops content f := by
  constructor
  · rintro (⟨-, h⟩ | ⟨hyaml, -⟩)
    · exact h
    · exact absurd hyaml hh
  · exact .json fun he => hh (Or.inl he)

/-- Reading a content ends as it should, but for what the readers give up on. -/
theorem ends_read (hint : Hint) (content : String) :
    Ends .document IsDocument (ReaderStops hint content) (read hint content) := by
  by_cases hyaml : ReadAsYaml hint content
  · suffices ∃ complaint, read hint content = readYaml complaint content by
      obtain ⟨complaint, h⟩ := this
      rw [h]
      exact (ends_readYaml complaint content).congr fun f => readerStops_iff_of_yaml hyaml
    rcases hyaml with rfl | ⟨rfl, problem, place, hjson⟩
    · exact ⟨_, rfl⟩
    · exact ⟨some (Json.complaint content problem place), by simp [read, hjson]⟩
  · refine Ends.congr ?_ fun f => readerStops_iff_of_json hyaml
    have hne : hint ≠ .yaml := fun he => hyaml (Or.inl he)
    unfold read
    rw [if_neg hne]
    split
    · rename_i h
      exact ends_requireMap _ fun f => by simp [Json.stops_iff h]
    · rename_i h
      exact .fault fun g => by simp [Json.stops_iff h]
    · rename_i h
      exact .fault fun g => by simp [Json.stops_iff h]
    · rename_i problem place h
      have hjson : hint = .json := by
        cases hint with
        | json => rfl
        | yaml => exact absurd rfl hne
        | unknown => exact absurd (Or.inr ⟨rfl, problem, place, h⟩) hyaml
      dsimp only
      rw [if_pos hjson]
      exact .failed ⟨rfl, rfl, rfl⟩ fun f => by simp [Json.stops_iff h]

/-! ## Sources -/

variable {s : Surroundings} {source : String}

/-- A source is the address of a server. -/
def IsAddress (source : String) : Prop :=
  (Text.startsWith "http://" source || Text.startsWith "https://" source) = true

/-- A source is the path of a file. -/
def IsPath (source : String) : Prop := source ≠ "-" ∧ ¬IsAddress source

theorem not_isAddress_input : ¬IsAddress "-" := by
  unfold IsAddress
  decide

/-- The server that is asked for a document answers it with a body. -/
def Answers (s : Surroundings) (mediaType : String) (body : List UInt8) : Prop :=
  ∃ status, s.reply = .answered status mediaType body ∧ 200 ≤ status ∧ status < 300

/-- A content comes from a source, with a hint at its language. -/
inductive Arrives (s : Surroundings) : String → Hint → String → Prop where
  /-- It stands on standard input. -/
  | input (h : Text.isBlankText s.input = false) : Arrives s "-" .unknown s.input
  /-- It is the body that a server sends, in the encoding of its media type. -/
  | reply {url mediaType content : String} {body : List UInt8} (hurl : IsAddress url)
      (hs : Answers s mediaType body)
      (h : (MediaType.charset mediaType).decode body = .ok content) :
      Arrives s url (hintOfMediaType mediaType) content
  /-- It is what a file holds, in UTF-8. -/
  | file {path content : String} {bytes : List UInt8} (hpath : IsPath path)
      (hs : s.files.read? (Path.tidy path) = .ok (some bytes))
      (hd : (Text.decode? bytes).map Text.Newline.translateText = some content)
      (h : Text.isBlankText content = false) : Arrives s path (hintOfPath path) content

/-- Loading from a source stops short. -/
inductive Stops (s : Surroundings) (source : String) : Fault → Prop where
  /-- A content arrives on which one of the readers gives up. -/
  | reader {hint : Hint} {content : String} {f : Fault} (ha : Arrives s source hint content)
      (h : ReaderStops hint content f) : Stops s source f
  /-- The bytes of a body do not say in which order they are to be read. -/
  | order {mediaType : String} {body : List UInt8} {f : Fault} (hurl : IsAddress source)
      (hs : Answers s mediaType body) (h : (MediaType.charset mediaType).decode body = .error f) :
      Stops s source f
  /-- The bytes of a file encode no text. -/
  | bytes {bytes : List UInt8} (hpath : IsPath source)
      (hs : s.files.read? (Path.tidy source) = .ok (some bytes)) (h : Text.decode? bytes = none) :
      Stops s source .undecodable
  /-- The path of a file cannot be followed. -/
  | path {f : Fault} (hpath : IsPath source) (h : s.files.read? (Path.tidy source) = .error f) :
      Stops s source f

theorem stops_input_iff {f : Fault} :
    Stops s "-" f ↔ Text.isBlankText s.input = false ∧ ReaderStops .unknown s.input f := by
  constructor
  · rintro (⟨ha, h⟩ | ⟨hurl, -, -⟩ | ⟨hpath, -, -⟩ | ⟨hpath, -⟩)
    · cases ha with
      | input hblank => exact ⟨hblank, h⟩
      | reply hurl => exact absurd hurl not_isAddress_input
      | file hpath => exact absurd rfl hpath.1
    · exact absurd hurl not_isAddress_input
    · exact absurd rfl hpath.1
    · exact absurd rfl hpath.1
  · rintro ⟨hblank, h⟩
    exact .reader (.input hblank) h

theorem stops_address_iff (hurl : IsAddress source) {f : Fault} :
    Stops s source f ↔ ∃ mediaType body, Answers s mediaType body ∧
      ((∃ content, (MediaType.charset mediaType).decode body = .ok content ∧
          ReaderStops (hintOfMediaType mediaType) content f) ∨
        (MediaType.charset mediaType).decode body = .error f) := by
  constructor
  · rintro (⟨ha, h⟩ | ⟨-, hs, h⟩ | ⟨hpath, -, -⟩ | ⟨hpath, -⟩)
    · cases ha with
      | input => exact absurd hurl not_isAddress_input
      | reply _ hs hd => exact ⟨_, _, hs, Or.inl ⟨_, hd, h⟩⟩
      | file hpath => exact absurd hurl hpath.2
    · exact ⟨_, _, hs, Or.inr h⟩
    · exact absurd hurl hpath.2
    · exact absurd hurl hpath.2
  · rintro ⟨mediaType, body, hs, ⟨content, hd, h⟩ | h⟩
    · exact .reader (.reply hurl hs hd) h
    · exact .order hurl hs h

theorem stops_path_iff (hpath : IsPath source) {f : Fault} :
    Stops s source f ↔ (∃ bytes, s.files.read? (Path.tidy source) = .ok (some bytes) ∧
      ((∃ content, (Text.decode? bytes).map Text.Newline.translateText = some content ∧
          Text.isBlankText content = false ∧ ReaderStops (hintOfPath source) content f) ∨
        Text.decode? bytes = none ∧ f = .undecodable)) ∨
      s.files.read? (Path.tidy source) = .error f := by
  constructor
  · rintro (⟨ha, h⟩ | ⟨hurl, -, -⟩ | ⟨-, hs, h⟩ | ⟨-, h⟩)
    · cases ha with
      | input => exact absurd rfl hpath.1
      | reply hurl => exact absurd hurl hpath.2
      | file _ hs hd hblank => exact Or.inl ⟨_, hs, Or.inl ⟨_, hd, hblank, h⟩⟩
    · exact absurd hurl hpath.2
    · exact Or.inl ⟨_, hs, Or.inr ⟨h, rfl⟩⟩
    · exact Or.inr h
  · rintro (⟨bytes, hs, ⟨content, hd, hblank, h⟩ | ⟨h, rfl⟩⟩ | h)
    · exact .reader (.file hpath hs hd hblank) h
    · exact .bytes hpath hs h
    · exact .path hpath h

theorem ends_loadInput (s : Surroundings) :
    Ends .document IsDocument (Stops s "-") (loadInput s) := by
  refine Ends.congr ?_ fun f => stops_input_iff
  unfold loadInput
  split
  · rename_i hblank
    exact .failed ⟨rfl, rfl, rfl⟩ fun f hf => by cases hf.1.symm.trans hblank
  · rename_i hblank
    exact (ends_read .unknown s.input).congr fun f => and_iff_right (Bool.not_eq_true _ ▸ hblank)

theorem answers_iff {mediaType mediaType' : String} {body body' : List UInt8} {status : Int}
    (h : s.reply = .answered status mediaType body) :
    Answers s mediaType' body' ↔
      (200 ≤ status ∧ status < 300) ∧ mediaType' = mediaType ∧ body' = body := by
  constructor
  · rintro ⟨status', hs, hok⟩
    cases h.symm.trans hs
    exact ⟨hok, rfl, rfl⟩
  · rintro ⟨hok, rfl, rfl⟩
    exact ⟨status, h, hok⟩

theorem ends_loadReply {url : String} (hurl : IsAddress url) :
    Ends .document IsDocument (Stops s url) (loadReply s url) := by
  refine Ends.congr ?_ fun f => stops_address_iff hurl
  unfold loadReply
  split
  · rename_i reason hs
    refine .failed ⟨rfl, rfl, rfl⟩ ?_
    rintro f ⟨mediaType, body, ⟨status, hs', -⟩, -⟩
    cases hs.symm.trans hs'
  · rename_i status mediaType body hs
    simp only [answers_iff hs]
    split
    · rename_i hok
      split
      · rename_i content hd
        refine (ends_read _ content).congr fun f => ⟨?_, fun h => ?_⟩
        · rintro ⟨_, _, ⟨-, rfl, rfl⟩, ⟨content', hd', h⟩ | h⟩
          · cases hd.symm.trans hd'
            exact h
          · cases hd.symm.trans h
        · exact ⟨_, _, ⟨hok, rfl, rfl⟩, Or.inl ⟨content, hd, h⟩⟩
      · rename_i f hd
        refine .fault fun g => ⟨?_, fun hg => ?_⟩
        · rintro ⟨_, _, ⟨-, rfl, rfl⟩, ⟨content', hd', -⟩ | h⟩
          · cases hd.symm.trans hd'
          · cases hd.symm.trans h
            rfl
        · exact ⟨_, _, ⟨hok, rfl, rfl⟩, Or.inr (hg ▸ hd)⟩
    · rename_i hok
      refine .failed ⟨rfl, rfl, rfl⟩ ?_
      rintro f ⟨_, _, ⟨hok', -⟩, -⟩
      exact hok hok'

theorem ends_loadFile {path : String} (hpath : IsPath path) :
    Ends .document IsDocument (Stops s path) (loadFile s path) := by
  refine Ends.congr ?_ fun f => stops_path_iff hpath
  unfold loadFile
  split
  · rename_i f hs
    simp only [hs]
    refine .fault fun g => ⟨?_, fun hg => Or.inr (hg ▸ rfl)⟩
    rintro (⟨_, h, -⟩ | h)
    · cases h
    · cases h
      rfl
  · rename_i hs
    simp only [hs]
    exact .failed ⟨rfl, rfl, rfl⟩ fun f => by simp
  · rename_i bytes hs
    simp only [hs]
    unfold textOfBytes
    cases hd : Text.decode? bytes with
    | none => exact .fault fun g => by simp [hd]
    | some text =>
      show Ends _ _ _ (if Text.isBlankText (Text.Newline.translateText text) then _ else _)
      split
      · rename_i hblank
        exact .failed ⟨rfl, rfl, rfl⟩ fun f => by simp [hd, hblank]
      · rename_i hblank
        refine (ends_read _ _).congr fun f => ?_
        simp [hd, Bool.not_eq_true _ ▸ hblank]

/-- Loading from a source ends as it should, but for the stops. -/
theorem ends_load (s : Surroundings) (source : String) :
    Ends .document IsDocument (Stops s source) (load s source).result := by
  show Ends _ _ _ (loadFrom s source)
  unfold loadFrom
  split
  · rename_i h
    rw [h]
    exact ends_loadInput s
  · rename_i hinput
    split
    · rename_i hurl
      exact ends_loadReply hurl
    · rename_i hurl
      exact ends_loadFile ⟨hinput, hurl⟩

end Source

/-! ## Settings -/

namespace Settings

variable {s : Surroundings} {start : Option String}

/-- The settings file that a run reads has a content. -/
def FileHolds (s : Surroundings) (start : Option String) (bytes : List UInt8) : Prop :=
  s.files.read? (Path.within (start.getD ".") fileName) = .ok (some bytes)

/-- Reading the settings stops short. -/
inductive Stops (s : Surroundings) (start : Option String) : Fault → Prop where
  /-- The reader of JSON gives up on the file. -/
  | reader {bytes : List UInt8} {content : String} {f : Fault} (hs : FileHolds s start bytes)
      (hd : (Text.decode? bytes).map Text.Newline.translateText = some content)
      (h : Json.Stops content f) : Stops s start f
  /-- The bytes of the file encode no text. -/
  | bytes {bytes : List UInt8} (hs : FileHolds s start bytes) (h : Text.decode? bytes = none) :
      Stops s start .undecodable
  /-- The path of the file cannot be followed. -/
  | path {f : Fault} (h : s.files.read? (Path.within (start.getD ".") fileName) = .error f) :
      Stops s start f

/-- Reading a settings file ends as it should, but for what the reader of JSON gives up on. -/
theorem ends_readFile (path : String) (bytes : List UInt8) :
    Ends .settings (fun _ => True)
      (fun f => (∃ content, (Text.decode? bytes).map Text.Newline.translateText = some content ∧
        Json.Stops content f) ∨ Text.decode? bytes = none ∧ f = .undecodable)
      (readFile path bytes) := by
  unfold readFile Source.textOfBytes
  cases hd : Text.decode? bytes with
  | none => exact .fault fun g => by simp
  | some text =>
    have hstops : ∀ f, (∃ content,
        (some text).map Text.Newline.translateText = some content ∧ Json.Stops content f) ∨
          some text = none ∧ f = .undecodable ↔ Json.Stops (Text.Newline.translateText text) f :=
      fun f => by simp
    refine Ends.congr ?_ hstops
    dsimp only [bind, Except.bind]
    split
    · rename_i h
      exact .ok trivial fun f => by simp [Json.stops_iff h]
    · rename_i h
      exact .failed ⟨rfl, rfl, rfl⟩ fun f => by simp [Json.stops_iff h]
    · rename_i h
      exact .fault fun g => by simp [Json.stops_iff h]
    · rename_i h
      exact .fault fun g => by simp [Json.stops_iff h]
    · rename_i h
      exact .failed ⟨rfl, rfl, rfl⟩ fun f => by simp [Json.stops_iff h]

/-- Settings that are wrong are complained of. -/
theorem ends_settings (l : Layers) :
    Ends .settings (fun _ => True) (fun _ => False) l.settings := by
  unfold Layers.settings
  cases ofEntries l.effective with
  | ok settings => exact .ok trivial fun _ => id
  | error issues => exact .failed ⟨rfl, rfl, rfl⟩ fun _ => id

theorem ends_project? (s : Surroundings) (start : Option String) :
    Ends .settings (fun _ => True) (Stops s start) (project? s start) := by
  unfold project?
  split
  · rename_i f hs
    refine .fault fun g => ⟨?_, fun hg => .path (hg ▸ hs)⟩
    rintro (⟨hs', -, -⟩ | ⟨hs', -⟩ | h)
    · cases hs.symm.trans hs'
    · cases hs.symm.trans hs'
    · cases hs.symm.trans h
      rfl
  · rename_i hs
    refine .ok trivial ?_
    rintro f (⟨hs', -, -⟩ | ⟨hs', -⟩ | h)
    · cases hs.symm.trans hs'
    · cases hs.symm.trans hs'
    · cases hs.symm.trans h
  · rename_i bytes hs
    refine Ends.bind ((ends_readFile _ bytes).congr fun f => ⟨?_, ?_⟩) fun _ _ =>
      .ok trivial fun _ => id
    · rintro (⟨hs', hd, h⟩ | ⟨hs', h⟩ | h)
      · cases hs.symm.trans hs'
        exact Or.inl ⟨_, hd, h⟩
      · cases hs.symm.trans hs'
        exact Or.inr ⟨h, rfl⟩
      · cases hs.symm.trans h
    · rintro (⟨content, hd, h⟩ | ⟨h, rfl⟩)
      · exact .reader hs hd h
      · exact .bytes hs h

/-- Reading the settings ends as it should, but for the stops. -/
theorem ends_resolve (s : Surroundings) (start level : Option String) :
    Ends .settings (fun _ => True) (Stops s start) (resolve s start level) := by
  unfold resolve
  exact (ends_project? s start).bind fun project _ => ends_settings _

end Settings

end ApiModel
