import ApiModel.Fault
import ApiModel.Keyed
import ApiModel.Text.Pieces

/-!
# Files

The files that a run can see, each at the place to which names lead from the working directory or
from the root of all files. A path leads through directories; a directory is there if it holds a
file or is known to be there without one, and so are the working directory and those around it. A
path ends before a character zero, and neither it nor a name in it may be too long.

* `at?_put_self`, `at?_put_of_ne`: a file that is put in has its new content, and no other file
  changes.
-/

namespace ApiModel

/-! ## Paths -/

namespace Path

/-- The greatest number of bytes in a name. -/
def maxName : Nat := 255

/-- The greatest number of bytes in a path. -/
def maxBytes : Nat := 4095

/-- Whether a path starts at the root of all files. -/
def isAbsolute (path : String) : Bool := Text.startsWith "/" path

/-- The names in a path that lead anywhere. -/
def names (path : String) : List String :=
  (Text.cut '/' path).filter fun n => n ≠ "" && n ≠ "."

/-- A path with the names that lead anywhere only. -/
def tidy (path : String) : String :=
  let text := Text.between "/" (names path)
  if isAbsolute path then "/" ++ text else if text = "" then "." else text

/-- The path of a name in a directory. -/
def within (directory name : String) : String :=
  if names directory = [] ∧ !isAbsolute directory then name
  else if names directory = [] then "/" ++ name
  else tidy directory ++ "/" ++ name

/-- The last name of a path from its last point on; nothing if the point starts or ends the name. -/
def suffix (path : String) : String :=
  let name := ((names path).getLast?.getD "").toList
  let tail := (name.reverse.takeWhile (· ≠ '.')).reverse
  if tail.isEmpty || name.length ≤ tail.length + 1 then "" else String.ofList ('.' :: tail)

end Path

/-- The names that lead to a file or directory: from the working directory down, or from the root of
all files, which is the name `/`. -/
abbrev Place := List String

namespace Place

/-- The place one directory up. -/
def up (p : Place) : Place :=
  match p.getLast? with
  | none => [".."]
  | some ".." => p ++ [".."]
  | some "/" => p
  | some _ => p.dropLast

/-- The place to which a name leads from a directory. -/
def step (p : Place) (name : String) : Place :=
  if name = "" ∨ name = "." then p else if name = ".." then p.up else p ++ [name]

end Place

/-- The place from which a path starts. -/
def Path.origin (path : String) : Place := if isAbsolute path then ["/"] else []

/-- The place to which a path leads if every name before the last is a directory. -/
def Path.place (path : String) : Place := (Text.cut '/' path).foldl Place.step (origin path)

/-! ## Files -/

/-- Files and their contents, each at its place, and directories that are there whether they hold a
file or not. -/
structure Files where
  /-- The contents. -/
  contents : List (Place × List UInt8)
  /-- The directories. -/
  directories : List Place
  deriving DecidableEq

namespace Files

instance : Inhabited Files := ⟨⟨[], []⟩⟩

/-- The content of the file at a place. -/
def at? (fs : Files) (p : Place) : Option (List UInt8) := fs.contents.lookup p

/-- Whether there is a directory at a place. -/
def isDirectory (fs : Files) (p : Place) : Bool :=
  p.all (· == "..") || p == ["/"] || fs.directories.any (fun d => p.isPrefixOf d)
    || fs.contents.any fun e => p.isPrefixOf e.1 && p.length < e.1.length

/-- The files with a content at a place. -/
def put (fs : Files) (p : Place) (content : List UInt8) : Files :=
  { fs with contents := Keyed.put Prod.fst fs.contents (p, content) }

/-- Goes through a place, which must be a directory. -/
def enter (fs : Files) (p : Place) : Except Fault Unit :=
  if (fs.at? p).isSome then .error .notDirectory
  else if fs.isDirectory p then .ok ()
  else .error .noFile

/-- The place to which a name leads from a directory. -/
def stepTo (fs : Files) (p : Place) (name : String) : Except Fault Place := do
  fs.enter p
  if Path.maxName < name.utf8ByteSize then throw .nameTooLong else return p.step name

/-- The names of a path, if it can be followed at all. -/
def namesOf (path : String) : Except Fault (List String) :=
  if path.toList.contains '\x00' then .error .badValue
  else if Path.maxBytes < path.utf8ByteSize then .error .nameTooLong
  else if path = "" then .error .noFile
  else .ok (Text.cut '/' path)

/-- The place to which a path leads through directories. -/
def place (fs : Files) (path : String) : Except Fault Place := do
  (← namesOf path).foldlM fs.stepTo (Path.origin path)

/-- The content of the file to which a path leads, if there is one. -/
def read? (fs : Files) (path : String) : Except Fault (Option (List UInt8)) :=
  match fs.place path with
  | .ok p => .ok (fs.at? p)
  | .error .nameTooLong => .error .nameTooLong
  | .error _ => .ok none

/-- The place of a file that is to be written. The path must end with its name. -/
def target (fs : Files) (path : String) : Except Fault Place := do
  let names ← namesOf path
  let ending := (names.reverse.dropWhile (· == "")).reverse
  let directory ← ending.dropLast.foldlM fs.stepTo (Path.origin path)
  fs.enter directory
  match ending.getLast? with
  | some name =>
    if ending.length < names.length ∨ name = "." ∨ name = ".." then throw .isDirectory
    else fs.stepTo directory name
  | none => throw .isDirectory

/-- The files after a content was written to a path. -/
def write (fs : Files) (path : String) (content : List UInt8) : Except Fault Files := do
  let p ← fs.target path
  if fs.isDirectory p then throw .isDirectory else return fs.put p content

/-! ## Lemmas -/

theorem lookup_put_self (es : List (Place × List UInt8)) (p : Place) (content : List UInt8) :
    (Keyed.put Prod.fst es (p, content)).lookup p = some content := by
  induction es with
  | nil => simp [Keyed.put]
  | cons e es ih =>
    obtain ⟨q, old⟩ := e
    by_cases h : q = p
    · simp [Keyed.put, h]
    · simp [Keyed.put, h, List.lookup_cons, beq_eq_false_iff_ne.2 (Ne.symm h), ih]

theorem lookup_put_of_ne {es : List (Place × List UInt8)} {p q : Place} {content : List UInt8}
    (h : q ≠ p) : (Keyed.put Prod.fst es (p, content)).lookup q = es.lookup q := by
  induction es with
  | nil => simp [Keyed.put, List.lookup_cons, beq_eq_false_iff_ne.2 h]
  | cons e es ih =>
    obtain ⟨r, old⟩ := e
    by_cases hr : r = p
    · subst hr
      simp [Keyed.put, List.lookup_cons, beq_eq_false_iff_ne.2 h]
    · simp [Keyed.put, hr, List.lookup_cons, ih]

theorem at?_put_self (fs : Files) (p : Place) (content : List UInt8) :
    (fs.put p content).at? p = some content := lookup_put_self ..

theorem at?_put_of_ne {fs : Files} {p q : Place} {content : List UInt8} (h : q ≠ p) :
    (fs.put p content).at? q = fs.at? q := lookup_put_of_ne h

end Files

end ApiModel
