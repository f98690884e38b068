import OperationClasses.Files.Tree

/-!
# Writing into trees of files

Making a folder or a file needs the folder that it is in; folders on the way can be made first.
When that does not succeed, the folders that were made before the fault are there.
-/
namespace OperationClasses.FileTree

/-- The folder in which the last name of a path is looked up, and that name. Names that stay
where one is or lead back are no names of anything new. -/
def lastStep (t : FileTree) (here : Place) (path : String) :
    Except FileCause (Place × String) :=
  match (Path.parts path).reverse with
  | [] => .error .missing
  | name :: above => do
    let p ← t.walk false maxLinks (Place.start here path) above.reverse
    (t.enter p name).map fun _ => (p, name)

/-- Whether a name leads to a folder already because of how it is spelled. -/
def isWayName (name : String) : Bool := ["", ".", ".."].contains name

/-- The tree with something new at a path. What is there already is in the way, be it a link that
leads nowhere. -/
def create (t : FileTree) (here : Place) (path : String) (e : FileEntry) :
    Except FileCause FileTree := do
  checkPath path
  let (p, name) ← t.lastStep here (Path.withoutEnd path)
  if isWayName name || t.isTaken (p.step name) then .error .present
  else if !(t.access p).write then .error .denied
  else .ok (t.insert (p.step name) e)

/-- The tree with a new folder at a path. -/
def makeFolder (t : FileTree) (here : Place) (path : String) : Except FileCause FileTree :=
  t.create here path .folder

/-- The tree with a file at a place. -/
def writeAt (t : FileTree) (q : Place) (data : ByteArray) : Except FileCause FileTree :=
  match t.entry? q with
  | some .sink => .ok t
  | some (.file _) =>
    if (t.access q).write then .ok (t.insert q (.file data)) else .error .denied
  | some (.link _) => .error .tooManyLinks
  | some .folder => .error .isFolder
  | none =>
    if t.isFolder q then .error .isFolder
    else if (t.access q.parent).write then .ok (t.insert q (.file data))
    else .error .denied

/-- The tree with a file at a path; a file that is there already is replaced. -/
def writeFile (t : FileTree) (here : Place) (path : String) (data : ByteArray) :
    Except FileCause FileTree := do
  checkPath path
  t.writeAt (← t.walk true maxLinks (Place.start here path) (Path.parts path)) data

/-- The tree with a new link at a path. -/
def makeLink (t : FileTree) (here : Place) (path target : String) :
    Except FileCause FileTree := do
  checkPath target
  t.create here path (.link target)

/-- The place of what a path leads to, or of the link that its last name is. -/
def locateName (t : FileTree) (here : Place) (path : String) : Except FileCause Place := do
  checkPath path
  let (p, name) ← t.lastStep here path
  if t.isTaken (p.step name) then .ok (p.step name) else .error .missing

/-- The tree with a new name for what has another one. Folders have only one. -/
def makeName (t : FileTree) (here : Place) (path target : String) :
    Except FileCause FileTree := do
  match t.entry? (← t.locateName here target) with
  | some .folder | none => .error .denied
  | some e => t.create here path e

/-- The tree without the file or link at a path. -/
def unlink (t : FileTree) (here : Place) (path : String) : Except FileCause FileTree := do
  let q ← t.locateName here path
  if t.isFolder q then .error .isFolder
  else if !(t.access q.parent).write then .error .denied
  else .ok (t.remove q)

/-- A tree after an attempt to change it, and what went wrong. -/
abbrev Attempt := FileTree × Option FileFault

/-- Makes a folder, which may be there already if that is allowed. -/
def tryFolder (here : Place) (mayExist : Bool) (t : FileTree) (path : String) : Attempt :=
  match t.makeFolder here path with
  | .ok t => (t, none)
  | .error c =>
    if mayExist && (t.find? here path).any t.isFolder then (t, none) else (t, some ⟨c, path⟩)

/-- Makes the folder at a path; before that, the one above it if nothing is there. It does not
matter if that one turns out to be taken. The bound is one on the number of folders. -/
def makeFoldersWithin (here : Place) (mayExist : Bool) : Nat → FileTree → String → Attempt
  | 0, t, path => tryFolder here mayExist t path
  | n + 1, t, path =>
    let path' := if Path.name path = "" then Path.folder path else path
    let above := Path.folder path'
    if above ≠ "" && Path.name path' ≠ "" && (t.find? here above).isNone then
      let (t, fault?) := makeFoldersWithin here mayExist n t above
      if fault?.any (·.cause ≠ .present) then (t, fault?)
      else if Path.name path' = "." then (t, none)
      else tryFolder here mayExist t path
    else tryFolder here mayExist t path

/-- Makes the folder at a path and those above it. -/
def makeFolders (t : FileTree) (here : Place) (mayExist : Bool) (path : String) : Attempt :=
  makeFoldersWithin here mayExist path.length t path

/-- Sees to it that there is a folder at a place, whose names are given from the last to the
first. It is attempted at once, and again with the folder above it if that one is missing. -/
def ensureFolder (t : FileTree) : List String → Attempt
  | [] => (t, none)
  | name :: above =>
    let path := Place.text (name :: above).reverse
    match t.makeFolder [] path with
    | .error .missing =>
      match ensureFolder t above with
      | (t, some f) => (t, some f)
      | (t, none) => tryFolder [] true t path
    | _ => tryFolder [] true t path

/-- Writes a file at a path. -/
def tryFile (t : FileTree) (here : Place) (path : String) (data : ByteArray) : Attempt :=
  match t.writeFile here path data with
  | .ok t => (t, none)
  | .error c => (t, some ⟨c, path⟩)

/-- Writes a text into the file at a path. Folders above it come into being. -/
def writeText (t : FileTree) (here : Place) (path s : String) : Attempt :=
  match if Path.folder path = "" then (t, none) else t.makeFolders here true (Path.folder path) with
  | (t, some f) => (t, some f)
  | (t, none) => t.tryFile here path s.toUTF8

/-- Writes a text into the file at a place. The folder above it comes into being. -/
def writeTextAt (t : FileTree) (p : Place) (s : String) : Attempt :=
  match t.ensureFolder p.parent.reverse with
  | (t, some f) => (t, some f)
  | (t, none) => t.tryFile [] p.text s.toUTF8

end OperationClasses.FileTree
