/-!
# Faults

A fault is what an operation runs into when it meets a value it has no meaning for. Unlike a
complaint about a document it has no wording: it ends the run.
-/

namespace ApiModel

/-- Why an operation cannot go on. -/
inductive Fault where
  /-- A value has a kind for which the operation has no meaning. -/
  | wrongKind
  /-- A value lacks the member that is asked of it. -/
  | noMember
  /-- A text, number or date has a content that cannot be converted. -/
  | badValue
  /-- Bytes encode no text. -/
  | undecodable
  /-- Bytes do not say in which order they are to be read. -/
  | noByteOrder
  /-- A table has no entry for a key. -/
  | noEntry
  /-- A sequence has no item at an index. -/
  | noItem
  /-- A number is too large for the operation. -/
  | overflow
  /-- A file cannot be opened since its directory is missing. -/
  | noFile
  /-- A file cannot be opened since a directory stands in its place. -/
  | isDirectory
  /-- A file cannot be opened since a file stands in the place of its directory. -/
  | notDirectory
  /-- A name in a path, or a path, is longer than names and paths of files can be. -/
  | nameTooLong
  /-- Parts lie deeper within each other than the operation can go. -/
  | tooDeep
  deriving DecidableEq, Repr

end ApiModel
