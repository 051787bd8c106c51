import ApiModel.Files

/-!
# Surroundings

What a run of the program finds around it: the files, the environment, the standard input, and what
a server answers.

* `filled_eq_some_iff`: a variable is filled with a text if that is its value and not empty.
-/

namespace ApiModel

/-- What comes back when a document is fetched. -/
inductive Reply where
  /-- The server could not be reached, for a reason. -/
  | unreachable (reason : String)
  /-- The server answered with a status, the media type of the body, and the body. -/
  | answered (status : Int) (mediaType : String) (body : List UInt8)
  deriving DecidableEq, Repr

/-- What a run finds around it. -/
structure Surroundings where
  /-- The files. -/
  files : Files
  /-- The path of the working directory. -/
  directory : String
  /-- The variables of the environment. -/
  environment : List (String × String)
  /-- The text on standard input, with the line ends that it has. -/
  input : String
  /-- What a server answers. -/
  reply : Reply
  /-- The path of the file in which a crash is recorded. -/
  crashLog : String

namespace Surroundings

/-- The value of a variable of the environment. -/
def lookup (s : Surroundings) (name : String) : Option String := s.environment.lookup name

/-- The value of a variable of the environment that is not empty. -/
def filled (s : Surroundings) (name : String) : Option String :=
  (s.lookup name).filter (· ≠ "")

theorem filled_eq_some_iff {s : Surroundings} {name text : String} :
    s.filled name = some text ↔ s.lookup name = some text ∧ text ≠ "" := by
  simp [filled, Option.filter_eq_some_iff]

end Surroundings

end ApiModel
