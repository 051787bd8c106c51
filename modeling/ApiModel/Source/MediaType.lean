import ApiModel.Text.Blank
import ApiModel.Text.Case
import ApiModel.Text.Charset
import ApiModel.Text.Pieces

/-!
# Media types

A media type names a kind of content and may have parameters after it, with semicolons between them.
A semicolon inside quotation marks belongs to a value. The parameter `charset` says how the content
encodes a text; where it is not there or not known, the content is UTF-8.

* `charset_of_no_parameter`: a media type in which no charset is named leaves UTF-8.
-/

namespace ApiModel.Source.MediaType

/-- The parts of a media type between semicolons. `quoted` says that a quotation mark is open,
`escaped` that a backslash stands before, and `part` is the current part. -/
def parts (quoted escaped : Bool) (part : List Char) : List Char → List (List Char)
  | [] => [part]
  | c :: rest =>
    if c = ';' ∧ !quoted then part :: parts false false [] rest
    else parts (quoted != (c == '"' && !escaped)) (c == '\\') (part ++ [c]) rest

/-- The name and the value of a parameter; the value is empty if there is none. -/
def parameter (part : List Char) : String × List Char :=
  let name := part.takeWhile (· ≠ '=')
  (Text.lower (String.ofList (Text.strip name)), Text.strip (part.drop (name.length + 1)))

/-- A text without the backslashes that escape quotation marks and backslashes. -/
def withoutEscapes : List Char → List Char
  | '\\' :: '\\' :: rest => '\\' :: withoutEscapes rest
  | '\\' :: '"' :: rest => '"' :: withoutEscapes rest
  | c :: rest => c :: withoutEscapes rest
  | [] => []

/-- A value without the marks around it. -/
def unquoted (value : List Char) : List Char :=
  match value.head?, value.getLast? with
  | some '"', some '"' => if 1 < value.length then withoutEscapes value.tail.dropLast else value
  | some '<', some '>' => value.tail.dropLast
  | _, _ => value

/-- The encoding that a media type asks for. -/
def charset (mediaType : String) : Text.Charset :=
  let parameters := (parts false false [] mediaType.toList).map parameter
  match parameters.lookup "charset" with
  | none => .utf8 false
  | some value => (Text.Charset.ofName? (String.ofList (unquoted value))).getD (.utf8 false)

theorem charset_of_no_parameter {mediaType : String}
    (h : ((parts false false [] mediaType.toList).map parameter).lookup "charset" = none) :
    charset mediaType = .utf8 false := by
  simp [charset, h]

end ApiModel.Source.MediaType
