import ApiModel.Fault
import ApiModel.Yaml.Cursor

/-!
# YAML tokens

The tokens of a YAML text. The structure that indentation expresses is made explicit: a block
collection has a token where it starts and one where it ends, and each key of a map has a token
before it.
-/

namespace ApiModel.Yaml

/-- Why a text is refused. -/
inductive Refusal where
  /-- The text is not YAML, or not a single document that can be understood. -/
  | malformed
  /-- A scalar has a content that cannot be converted. -/
  | fault (f : Fault)
  deriving DecidableEq, Repr

/-- A directive that concerns the documents that follow. -/
inductive Directive where
  /-- The version of YAML, of which the first number matters. -/
  | version (major : Nat)
  /-- A handle stands for the beginning of tags. -/
  | handle (name beginning : String)
  /-- Any other directive; it is passed over. -/
  | other

/-- A token. -/
inductive Token where
  /-- A directive. -/
  | directive (d : Directive)
  /-- The mark before a document. -/
  | documentStart
  /-- The mark after a document. -/
  | documentEnd
  /-- The start of a list in block style. -/
  | blockListStart
  /-- The start of a map in block style. -/
  | blockMapStart
  /-- The end of a collection in block style. -/
  | blockEnd
  /-- An opening bracket. -/
  | flowListStart
  /-- A closing bracket. -/
  | flowListEnd
  /-- An opening brace. -/
  | flowMapStart
  /-- A closing brace. -/
  | flowMapEnd
  /-- The hyphen before an item of a block list. -/
  | blockItem
  /-- A comma. -/
  | comma
  /-- The place before a key. -/
  | key
  /-- The colon before a value. -/
  | value
  /-- The name of a node that was given before. -/
  | alias (name : String)
  /-- A name given to the node that follows. -/
  | anchor (name : String)
  /-- A tag, with its handle unless it is written out. -/
  | tag (handle : Option String) (suffix : String)
  /-- A scalar, and whether it stands without marks. -/
  | scalar (content : String) (plain : Bool)
  /-- The end of the text. -/
  | streamEnd

/-- The tokens of a text. Where the text cannot be cut into tokens to its end, these are the tokens
that can be told without looking at what stands in the way. -/
structure Tokens where
  /-- The tokens in order. -/
  found : Array Token
  /-- What stands in the way of more. -/
  obstacle : Option Refusal

end ApiModel.Yaml
