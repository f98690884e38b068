import OperationClasses.CommandLine.Run

/-!
# The program

The outer layer of the command line: it reads the files and folders that the arguments name,
lets the run decide everything, prints its lines and writes what it changed.
-/
namespace OperationClasses.Program

open CommandLine

/-- The paths among the arguments, by the options they are given for. -/
def givenPaths (args : List String) : List (Given GenerateOption) :=
  match readProgram args with
  | .ok ⟨[], "generate" :: rest⟩ =>
    match Arguments.read generateForms true rest with
    | .ok a => a.given
    | .error _ => []
  | _ => []

/-- The places that a path passes, each a step further. -/
def passed (here : Place) (path : String) : List Place :=
  (Path.parts path).foldl (fun places name =>
    Place.step (places.headD here) name :: places) [Place.start here path]

/-- What is at a place, without what is below it. -/
def entryAt (place : Place) : IO (List (Place × FileEntry)) := do
  let path := (← IO.currentDir) / place.text
  if ← path.isDir then return [(place, .folder)]
  else if ← path.pathExists then return [(place, .file (← IO.FS.readBinFile path))]
  else return []

/-- What is at a place and below it. -/
partial def entriesAt (place : Place) : IO (List (Place × FileEntry)) := do
  let path := (← IO.currentDir) / place.text
  let below ← if ← path.isDir then
      (← path.readDir).toList.mapM fun entry => entriesAt (place ++ [entry.fileName])
    else pure []
  return (← entryAt place) ++ below.flatten

/-- What a run can see of a path that is given for an option: what is on the way and, except for
the output, all that is below it. -/
def seen (here : Place) (given : Given GenerateOption) : IO (List (Place × FileEntry)) := do
  let way := (← (passed here given.2).mapM entryAt).flatten
  match given.1 with
  | .schema | .documents | .config | .templates =>
    return way ++ (← entriesAt (Place.resolve here given.2))
  | .output => return way
  | .target | .namespaceName | .header | .verbose | .help => return []

/-- Writes a file, with the folders above it. -/
def writeFile (place : Place) (data : ByteArray) : IO Unit := do
  let base ← IO.currentDir
  IO.FS.createDirAll (base / place.parent.text)
  IO.FS.writeBinFile (base / place.text) data

/-- Runs the program in the current folder. -/
def run (args : List String) : IO UInt32 := do
  let here := Place.resolve [] (toString (← IO.currentDir))
  let entries := (← (givenPaths args).mapM (seen here)).flatten
  let files : FileTree := { entries := (here, .folder) :: entries }
  let outcome := CommandLine.run ⟨files, here, ["tmp", "schema"]⟩ args
  for line in outcome.lines do
    match line.stream with
    | .output => IO.println line.text
    | .errors => IO.eprintln line.text
  for (place, data) in files.changes outcome.files do
    writeFile place data
  if let some failure := outcome.failure? then IO.eprintln failure.message
  return UInt32.ofNat outcome.exitCode

end OperationClasses.Program

/-- Generates operation classes as the arguments say. -/
def main (args : List String) : IO UInt32 := OperationClasses.Program.run args
