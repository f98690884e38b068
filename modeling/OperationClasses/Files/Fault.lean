import OperationClasses.Text.Quoted

/-!
# Faults of files

What can stand in the way of reading or writing at a path, and how it is reported.
-/
namespace OperationClasses

/-- What stands in the way at a path. -/
inductive FileCause where
  | missing | denied | present | notFolder | isFolder | nameTooLong | tooManyLinks | nullCharacter
  deriving Repr, DecidableEq

/-- The number and the words by which a cause is reported. -/
def FileCause.text : FileCause → String
  | .missing => "[Errno 2] No such file or directory"
  | .denied => "[Errno 13] Permission denied"
  | .present => "[Errno 17] File exists"
  | .notFolder => "[Errno 20] Not a directory"
  | .isFolder => "[Errno 21] Is a directory"
  | .nameTooLong => "[Errno 36] File name too long"
  | .tooManyLinks => "[Errno 40] Too many levels of symbolic links"
  | .nullCharacter => "embedded null byte"

/-- Why a file or folder cannot be read or written, with the path under which it was asked for. -/
structure FileFault where
  cause : FileCause
  path : String
  deriving Repr, DecidableEq

/-- The report of a fault. A path that no path can be spelled like is not shown. -/
def FileFault.message (f : FileFault) : String :=
  if f.cause = .nullCharacter then f.cause.text else f.cause.text ++ ": " ++ Text.escaped f.path

end OperationClasses
