import OperationClasses.Archive.Extract.Tape
import OperationClasses.Archive.Extract.Zip
import OperationClasses.Text.Case

/-!
# Extracting archives

A schema may come as an archive. How it is packed is told by the end of its name; the test that
decides whether a file is treated as an archive disregards letter case, the one that decides how
to unpack it does not. Members are unpacked below a folder one after another, and the first
fault ends it.
-/
namespace OperationClasses.Archive

/-- How an archive is packed. -/
inductive Format where
  | zip | tarGzip
  deriving Repr, DecidableEq

/-- Whether a file of this name is treated as an archive. -/
def isArchiveName (name : String) : Bool :=
  FileTree.hasEnding [".zip", ".tar.gz", ".tgz"] (Text.lowerText name)

/-- How a file of this name is unpacked. -/
def format? (name : String) : Option Format :=
  if Path.suffix name = ".zip" then some .zip
  else if FileTree.hasEnding [".tar.gz", ".tgz"] name then some .tarGzip
  else none

/-- The last name of a path that says more than where one is. -/
def nameOf (path : String) : String :=
  (((Path.parts path).filter fun s => s ≠ "" && s ≠ ".").getLast?).getD ""

/-- Unpacks the archive at a path below a folder, which is new. What was unpacked before a fault
remains; for a name that tells of no archive the folder is gone again. -/
def unpack (t : FileTree) (here : Place) (path : String) (folder : Place) :
    Except Fault Unit × FileTree :=
  match format? (nameOf path) with
  | none => (.error (.unsupported (Path.suffix (nameOf path))), t)
  | some format =>
    match t.read here (Path.normal path) with
    | .error f => (.error (.file f), t.insert folder .folder)
    | .ok data =>
      let members := match format with
        | .zip => unpackZip data folder
        | .tarGzip => unpackTar data folder
      let (result, t) := members.run.run (t.insert folder .folder)
      (result.mapError .member, t)

/-- The tree with what the archive at a path holds, below a folder. -/
def extract (t : FileTree) (here : Place) (path : String) (folder : Place) :
    Except Fault FileTree :=
  match unpack t here path folder with
  | (result, t) => result.map fun _ => t

end OperationClasses.Archive
