import ApiModel.CommandLine.Run

/-!
# The program

The program looks up what a run may need, runs, and carries out what the run decided: it writes to
the standard streams and to the file that was asked for. Documents can be read from files and from
standard input; there is no access to servers.
-/

open ApiModel

/-- The content of a file, if it can be read. -/
def readContent (path : String) : IO (Option (List UInt8)) := do
  try
    return some (← IO.FS.readBinFile path).toList
  catch _ => return none

/-- Whether there is a directory at a path. -/
def hasDirectory (path : String) : IO Bool := do
  ((← IO.currentDir) / path).isDir

/-- The text up to the end of a stream. -/
partial def readText (stream : IO.FS.Stream) (before : String) : IO String := do
  let line ← stream.getLine
  if line.isEmpty then return before else readText stream (before ++ line)

/-- The path of the directory of a file. -/
def directoryOf (path : String) : String :=
  let cs := (path.toList.reverse.dropWhile (· ≠ '/')).reverse
  if cs.isEmpty then "." else String.ofList cs

/-- The files that a run with these arguments may read. -/
def findFiles (args : List String) : IO Files := do
  let mut contents := []
  for path in Settings.fileName :: (CommandLine.source? args).toList do
    if let some bytes ← readContent path then
      contents := (Path.place path, bytes) :: contents
  let mut directories := []
  for path in (CommandLine.target? args).toList.flatMap fun t => [t, directoryOf t] do
    if ← hasDirectory path then
      directories := Path.place path :: directories
  return ⟨contents, directories⟩

/-- The variables of the environment that matter. -/
def findVariables : IO (List (String × String)) := do
  let mut found := []
  for name in ["SPECIR_LOG_LEVEL", "SPECIR_JSON_MEDIA_TYPES", "NO_COLOR"] do
    if let some value ← IO.getEnv name then
      found := (name, value) :: found
  return found

/-- What a run with these arguments finds around it. -/
def findSurroundings (args : List String) : IO Surroundings := do
  let text ← if CommandLine.source? args == some "-" then readText (← IO.getStdin) "" else pure ""
  return {
    files := ← findFiles args
    directory := (← IO.currentDir).toString
    environment := ← findVariables
    input := Text.Newline.translateText text
    reply := .unreachable "there is no access to servers"
    crashLog := "specir-crash.log" }

/-- What is recorded of a crash. -/
def crashRecord : Failure → String
  | .fault f => reprStr f ++ "\n"
  | .invalid form issues =>
    reprStr form ++ "\n" ++ String.join (issues.map fun i => i.text ++ "\n")
  | f => f.message ++ "\n"

/-- Runs the program. -/
def main (args : List String) : IO UInt32 := do
  let surroundings ← findSurroundings args
  let outcome := CommandLine.run surroundings args
  if let some path := CommandLine.target? args then
    let place := Path.place path
    if let some content := outcome.streams.files.at? place then
      if surroundings.files.at? place != some content then
        IO.FS.writeBinFile path ⟨content.toArray⟩
  if let some failure := outcome.crash then
    IO.FS.writeFile surroundings.crashLog (crashRecord failure)
  (← IO.getStderr).putStr outcome.streams.err
  (← IO.getStdout).putStr outcome.streams.out
  return UInt32.ofNat outcome.exitCode.toNat
