import ApiModel.Source.Content
import ApiModel.Source.MediaType
import ApiModel.Surroundings
import ApiModel.Text.Blank
import ApiModel.Text.Newline
import ApiModel.Text.Quoted

/-!
# Loading a document

A document is loaded from standard input, from a server, or from a file. The suffix of a file and
the media type of a body hint at the language; files and standard input must not be blank. The line
ends of files are made one, those of other sources are left as they are.

* `load_events`: loading notes where from, before all else.
-/

namespace ApiModel.Source

/-- The hint that the media type of a body gives. -/
def hintOfMediaType (mediaType : String) : Hint :=
  let mentions (s : String) := Text.occursIn s.toList mediaType.toList
  if mentions "json" then .json
  else if mentions "yaml" || mentions "yml" then .yaml
  else .unknown

/-- The hint that the suffix of a path gives, in any case. -/
def hintOfPath (path : String) : Hint :=
  match Text.lower (Path.suffix path) with
  | ".json" => .json
  | ".yaml" => .yaml
  | ".yml" => .yaml
  | _ => .unknown

/-- The text that bytes encode, each line ending in a line feed. -/
def textOfBytes (bytes : List UInt8) : Except Failure String :=
  match Text.decode? bytes with
  | some s => .ok (Text.Newline.translateText s)
  | none => .error (.fault .undecodable)

/-- The document on standard input. -/
def loadInput (s : Surroundings) : Except Failure Value :=
  if Text.isBlankText s.input then .error .noInput else read .unknown s.input

/-- The document that a server sends. -/
def loadReply (s : Surroundings) (url : String) : Except Failure Value :=
  match s.reply with
  | .unreachable reason => .error (.sourceUnreachable url reason)
  | .answered status mediaType body =>
    if 200 ≤ status ∧ status < 300 then
      match (MediaType.charset mediaType).decode body with
      | .ok content => read (hintOfMediaType mediaType) content
      | .error f => .error (.fault f)
    else .error (.sourceStatus status url)

/-- The document in a file. -/
def loadFile (s : Surroundings) (path : String) : Except Failure Value :=
  match s.files.read? (Path.tidy path) with
  | .error f => .error (.fault f)
  | .ok none => .error (.sourceMissing path)
  | .ok (some bytes) => do
    let content ← textOfBytes bytes
    if Text.isBlankText content then throw (.sourceEmpty path)
    else read (hintOfPath path) content

/-- The document from a source: `-` for standard input, an address, or a path. -/
def loadFrom (s : Surroundings) (source : String) : Except Failure Value :=
  if source = "-" then loadInput s
  else if Text.startsWith "http://" source || Text.startsWith "https://" source then
    loadReply s source
  else loadFile s source

/-- Loads the document from a source. -/
def load (s : Surroundings) (source : String) : Traced Value := do
  Traced.note (.loading source)
  loadFrom s source

theorem load_events (s : Surroundings) (source : String) :
    (load s source).events = [.loading source] := rfl

end ApiModel.Source
