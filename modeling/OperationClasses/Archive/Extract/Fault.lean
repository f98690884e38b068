import OperationClasses.Archive.Tar
import OperationClasses.Archive.Zip
import OperationClasses.Files.Writing

/-!
# Faults of extraction

Why an archive cannot be unpacked into a tree of files, and the steps that members of all archives
have in common.
-/
namespace OperationClasses.Archive

/-- Why what an archive holds cannot be unpacked. -/
inductive MemberFault where
  | file (fault : FileFault)
  /-- A device cannot be made, because of what is at its path or because none can. -/
  | device (cause? : Option FileCause)
  /-- A link gives way to another one again and again. -/
  | endlessLinks
  | zip (fault : Zip.Fault)
  | tar (fault : Tar.Fault)
  deriving Repr, DecidableEq

def MemberFault.message : MemberFault → String
  | .file fault => fault.message
  | .device none => "[Errno 1] Operation not permitted"
  | .device (some cause) => cause.text
  | .endlessLinks => "maximum recursion depth exceeded in comparison"
  | .zip fault => fault.message
  | .tar fault => fault.message

/-- Why an archive cannot be unpacked. -/
inductive Fault where
  | unsupported (suffix : String)
  | member (fault : MemberFault)
  deriving Repr, DecidableEq

namespace Fault

@[match_pattern]
def file (fault : FileFault) : Fault := .member (.file fault)

@[match_pattern]
def device (cause? : Option FileCause) : Fault := .member (.device cause?)

@[match_pattern]
def endlessLinks : Fault := .member .endlessLinks

@[match_pattern]
def zip (fault : Zip.Fault) : Fault := .member (.zip fault)

@[match_pattern]
def tar (fault : Tar.Fault) : Fault := .member (.tar fault)

def message : Fault → String
  | .unsupported suffix => "Unsupported archive format: " ++ suffix
  | .member fault => fault.message

/-- Whether unpacking had begun when the fault was found. -/
def leavesFolder : Fault → Bool
  | .unsupported _ => false
  | .member _ => true

end Fault

/-- A step of unpacking into a tree of files. What was done before a fault remains done. -/
abbrev Unpacking (ε : Type) := ExceptT ε (StateM FileTree)

namespace Unpacking

variable {ε : Type}

/-- An attempt to change the tree. -/
def attempt (cause : FileFault → ε) (change : FileTree → FileTree.Attempt) : Unpacking ε Unit := do
  match change (← get) with
  | (t, none) => set t
  | (t, some f) =>
    set t
    throw (cause f)

/-- A change of the tree that is made at a path or not at all. -/
def change (cause : FileFault → ε) (path : String)
    (change : FileTree → Except FileCause FileTree) : Unpacking ε Unit :=
  attempt cause fun t =>
    match change t with
    | .ok t => (t, none)
    | .error c => (t, some ⟨c, path⟩)

/-- Makes the folder in which a path leads to something. -/
def makeFolderAbove (cause : FileFault → ε) (path : String) : Unpacking ε Unit := do
  let above := Path.folder path
  if above ≠ "" && ((← get).find? [] above).isNone then
    attempt cause fun t => t.makeFolders [] false above

/-- Makes a folder, which may be there already. -/
def makeFolder (cause : FileFault → ε) (path : String) : Unpacking ε Unit :=
  attempt cause fun t => t.tryFolder [] true path

/-- Makes a file whose bytes may turn out not to be readable. -/
def makeFile (cause : FileFault → ε) (path : String) (content : Except ε ByteArray) :
    Unpacking ε Unit := do
  change cause path fun t => t.writeFile [] path (content.toOption.getD .empty)
  discard (liftExcept content)
where
  liftExcept (content : Except ε ByteArray) : Unpacking ε ByteArray := ExceptT.mk (pure content)

end Unpacking

end OperationClasses.Archive
