import OperationClasses.Files.Writing
import OperationClasses.Generation

/-!
# Delivery

Generating into a file. The file is written when the whole text is there, so that a text that
cannot be made leaves the tree of files as it was.
-/
namespace OperationClasses

/-- Why nothing was delivered: the text was not made, or a file or folder stood in the way. -/
inductive DeliveryError (ε : Type) where
  | generation (error : ε)
  | file (fault : FileFault)
  deriving Inhabited

/-- Writes what is made for the base name of a path into the file that the path leads to; folders
above it come into being. -/
def deliverMade {ε : Type} (make : String → Except ε String) (t : FileTree) (here : Place)
    (path : String) : FileTree × Except (DeliveryError ε) String :=
  match make (Path.name path) with
  | .error e => (t, .error (.generation e))
  | .ok text =>
    match t.writeText here path text with
    | (t, some f) => (t, .error (.file f))
    | (t, none) => (t, .ok text)

namespace Generator

/-- The delivered text of a run; a template of the user takes the place of the target's. -/
def generateWith (g : Generator) (template? : Option String) : Except GenerationError String := do
  g.render template? (← g.build).1

/-- Generates into the file that a path leads to. The name of the file makes no difference to
headers. -/
def deliver (g : Generator) (t : FileTree) (here : Place) (path : String) :
    Except (DeliveryError GenerationError) (String × FileTree) :=
  match deliverMade (fun _ => g.generate) t here path with
  | (t, result) => result.map (·, t)

end Generator

end OperationClasses
