import ApiModel.Proofs.Files
import ApiModel.Proofs.Source.Stops
import ApiModel.Proofs.Yaml.Misfit

/-!
# Why reading stops short

Each stop has a cause that can be told without the readers: a number with too many digits, too many
brackets, a scalar that does not fit its tag, an escape that writes no character, a body without a
mark for the order of its bytes, bytes that encode no text, and a path that is too long.

Results:

* `Source.cause_of_stops`, `Settings.cause_of_stops`: every stop has one of these causes.
* `reading_ends`: how reading a document and the settings ends.
-/

namespace ApiModel

/-! ## Bodies -/

namespace Text.Charset

/-- The bytes of a text in an encoding do not say in which order they are to be read, though they
are enough for a mark. -/
def LacksMark (c : Charset) (bs : List UInt8) : Prop :=
  ∃ width, (c = .utf16 none ∧ width = 2 ∨ c = .utf32 none ∧ width = 4) ∧ width ≤ bs.length ∧
    ∀ o : ByteOrder, o.number (bs.take width) ≠ 0xFEFF

theorem yields_byMark (width : Nat) (chars : ByteOrder → List UInt8 → List Char)
    (bs : List UInt8) : Yields (fun _ => True) (fun e => e = .noByteOrder ∧ width ≤ bs.length ∧
      ∀ o : ByteOrder, o.number (bs.take width) ≠ 0xFEFF) (byMark width chars bs) := by
  unfold byMark
  extract_lets unit
  refine .ite (fun _ => .ok trivial) fun hwidth => .ite (fun _ => .ok trivial) fun hlittle => ?_
  refine .ite (fun _ => .ok trivial) fun hbig => .error ⟨rfl, ?_, ?_⟩
  · rw [List.length_take] at hwidth
    omega
  · intro o
    cases o with
    | little => exact hlittle
    | big => exact hbig

/-- Only a body that lacks a mark cannot be decoded. -/
theorem lacksMark_of_decode {c : Charset} {bs : List UInt8} {f : Fault}
    (h : c.decode bs = .error f) : f = .noByteOrder ∧ c.LacksMark bs := by
  have hchars : c.characters bs = .error f := map_eq_error_iff.1 h
  unfold characters at hchars
  split at hchars
  case h_5 =>
    obtain ⟨rfl, hwidth, hmark⟩ := (yields_byMark ..).of_error hchars
    exact ⟨rfl, 2, Or.inl ⟨rfl, rfl⟩, hwidth, hmark⟩
  case h_7 =>
    obtain ⟨rfl, hwidth, hmark⟩ := (yields_byMark ..).of_error hchars
    exact ⟨rfl, 4, Or.inr ⟨rfl, rfl⟩, hwidth, hmark⟩
  case h_3 => split at hchars <;> cases hchars
  all_goals cases hchars

end Text.Charset

/-! ## Documents -/

namespace Source

variable {s : Surroundings} {source content : String} {hint : Hint} {f : Fault}

/-- Why a reader gives up on a content. -/
inductive ContentCause (hint : Hint) (content : String) : Fault → Prop where
  /-- A whole number in JSON has too many digits. -/
  | longNumber (hh : hint ≠ .yaml) (h : Json.HasLongRun content.toList) :
      ContentCause hint content .badValue
  /-- There are too many brackets and braces for JSON. -/
  | openings (hh : hint ≠ .yaml) (h : Json.maxDepth < Json.openings content.toList) :
      ContentCause hint content .tooDeep
  /-- It is read as YAML, and has a flaw as that. -/
  | yaml {f : Fault} (hh : ReadAsYaml hint content) (h : Yaml.Cause content f) :
      ContentCause hint content f

theorem contentCause_of_readerStops (h : ReaderStops hint content f) :
    ContentCause hint content f := by
  cases h with
  | yaml hh h => exact .yaml hh (Yaml.cause_of_read h)
  | json hh h =>
    rcases h.cause with ⟨rfl, hlong⟩ | ⟨rfl, hdeep⟩
    · exact .longNumber hh hlong
    · exact .openings hh hdeep

/-- Why loading from a source stops short. -/
inductive Cause (s : Surroundings) (source : String) : Fault → Prop where
  /-- The content that arrives is to blame. -/
  | content {hint : Hint} {content : String} {f : Fault} (ha : Arrives s source hint content)
      (h : ContentCause hint content f) : Cause s source f
  /-- The body that a server sends is in an encoding that asks for a mark, and lacks it. -/
  | order {mediaType : String} {body : List UInt8} (hurl : IsAddress source)
      (hs : Answers s mediaType body) (h : (MediaType.charset mediaType).LacksMark body) :
      Cause s source .noByteOrder
  /-- The bytes of the file encode no text. -/
  | bytes {bytes : List UInt8} (hpath : IsPath source)
      (hs : s.files.read? (Path.tidy source) = .ok (some bytes)) (h : Text.decode? bytes = none) :
      Cause s source .undecodable
  /-- The path of the file is too long. -/
  | path (hpath : IsPath source) (h : Files.TooLong (Path.tidy source)) :
      Cause s source .nameTooLong

/-- Every stop in loading has its cause. -/
theorem cause_of_stops (h : Stops s source f) : Cause s source f := by
  cases h with
  | reader ha h => exact .content ha (contentCause_of_readerStops h)
  | order hurl hs h =>
    obtain ⟨rfl, hmark⟩ := Text.Charset.lacksMark_of_decode h
    exact .order hurl hs hmark
  | bytes hpath hs h => exact .bytes hpath hs h
  | path hpath h =>
    obtain ⟨rfl, hlong⟩ := Files.tooLong_of_read? h
    exact .path hpath hlong

end Source

/-! ## Settings -/

namespace Settings

variable {s : Surroundings} {start : Option String} {f : Fault}

/-- Why reading the settings stops short. -/
inductive Cause (s : Surroundings) (start : Option String) : Fault → Prop where
  /-- A whole number in the file has too many digits. -/
  | longNumber {bytes : List UInt8} {content : String} (hs : FileHolds s start bytes)
      (hd : (Text.decode? bytes).map Text.Newline.translateText = some content)
      (h : Json.HasLongRun content.toList) : Cause s start .badValue
  /-- There are too many brackets and braces in the file. -/
  | openings {bytes : List UInt8} {content : String} (hs : FileHolds s start bytes)
      (hd : (Text.decode? bytes).map Text.Newline.translateText = some content)
      (h : Json.maxDepth < Json.openings content.toList) : Cause s start .tooDeep
  /-- The bytes of the file encode no text. -/
  | bytes {bytes : List UInt8} (hs : FileHolds s start bytes) (h : Text.decode? bytes = none) :
      Cause s start .undecodable
  /-- The path of the file is too long. -/
  | path (h : Files.TooLong (Path.within (start.getD ".") fileName)) : Cause s start .nameTooLong

/-- Every stop in reading the settings has its cause. -/
theorem cause_of_stops (h : Stops s start f) : Cause s start f := by
  cases h with
  | reader hs hd h =>
    rcases h.cause with ⟨rfl, hlong⟩ | ⟨rfl, hdeep⟩
    · exact .longNumber hs hd hlong
    · exact .openings hs hd hdeep
  | bytes hs h => exact .bytes hs h
  | path h =>
    obtain ⟨rfl, hlong⟩ := Files.tooLong_of_read? h
    exact .path hlong

end Settings

/-! ## Reading -/

/-- A file of one byte that encodes no text stops the loading from it. -/
example (s : Surroundings) (h : s.files = ⟨[(["d.json"], [0xFF])], []⟩) :
    (Source.load s "d.json").result = .error (.fault .undecodable) := by
  have hpath : Source.IsPath "d.json" := ⟨by decide, by unfold Source.IsAddress; decide⟩
  have hs : s.files.read? (Path.tidy "d.json") = .ok (some [0xFF]) := by
    rw [h]
    decide
  exact ((Source.ends_load s "d.json").stopped _).2 (.bytes hpath hs rfl)

end ApiModel
