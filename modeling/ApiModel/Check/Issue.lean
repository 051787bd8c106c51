/-!
# Issues

An `Issue` says what is wrong with one part of a value that is checked against a declared form, and
where that part is.
-/

namespace ApiModel

/-- A step from a value to a part of it. -/
inductive Step where
  /-- To the part with a name. -/
  | name (s : String)
  /-- To the item at an index. -/
  | index (n : Nat)
  deriving DecidableEq, Repr

/-- What is wrong with a part of a value. -/
inductive Complaint where
  /-- It must be a text. -/
  | notText
  /-- Its bytes encode no text. -/
  | textEncoding
  /-- It must be a truth value. -/
  | notTruth
  /-- It cannot be read as a truth value. -/
  | truthSpelling
  /-- It must be a whole number. -/
  | notWhole
  /-- It is a number between two whole numbers. -/
  | fractional
  /-- It is a number beyond all whole numbers. -/
  | notFinite
  /-- It is a number too far from zero to be taken for a whole one. -/
  | tooFar
  /-- It must be a number. -/
  | notNumber
  /-- It must be a sequence. -/
  | notSequence
  /-- It must be a list. -/
  | notList
  /-- It must be a map. -/
  | notRecord
  /-- It must be a map with a tag. -/
  | notTagged
  /-- It lacks its tag. -/
  | tagMissing
  /-- Its tag is none of those expected. -/
  | tagUnknown
  /-- It lies within too many others of its form. -/
  | tooDeep
  /-- It is not there. -/
  | missing
  /-- It must not be there. -/
  | unexpected
  /-- It names no level of importance. -/
  | levelUnknown
  deriving DecidableEq, Repr

/-- One thing that is wrong with a value. -/
structure Issue where
  /-- Where the part is. -/
  path : List Step
  /-- What is wrong with it. -/
  complaint : Complaint
  deriving DecidableEq, Repr

/-- A step as it is written in a message. -/
def Step.text : Step → String
  | .name s => s
  | .index n => toString n

/-- What is wrong, in words. -/
def Complaint.text : Complaint → String
  | .notText => "must be a text"
  | .textEncoding => "must be encoded as a text"
  | .notTruth => "must be true or false"
  | .truthSpelling => "cannot be read as true or false"
  | .notWhole => "must be a whole number"
  | .fractional => "must be a number without a fraction"
  | .notFinite => "must be a finite number"
  | .tooFar => "is too large for a number with a fraction"
  | .notNumber => "must be a number"
  | .notSequence => "must be a sequence"
  | .notList => "must be a list"
  | .notRecord => "must be a map"
  | .notTagged => "must be a map with a kind"
  | .tagMissing => "has no kind"
  | .tagUnknown => "has an unknown kind"
  | .tooDeep => "lies too deep"
  | .missing => "is missing"
  | .unexpected => "is not known"
  | .levelUnknown => "names no log level"

/-- One thing that is wrong with a value, in words. -/
def Issue.text (i : Issue) : String :=
  ".".intercalate (i.path.map Step.text) ++ " " ++ i.complaint.text

/-- The issues of a part, as issues of the whole. -/
def Issue.within (steps : List Step) (issues : List Issue) : List Issue :=
  issues.map fun i => { i with path := steps ++ i.path }

theorem Issue.within_within (a b : List Step) (issues : List Issue) :
    Issue.within a (Issue.within b issues) = Issue.within (a ++ b) issues := by
  simp [Issue.within, List.append_assoc]

end ApiModel
