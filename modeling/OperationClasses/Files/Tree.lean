import OperationClasses.Files.Fault
import OperationClasses.Files.Path
import OperationClasses.Text.Blank
import OperationClasses.Text.Utf8

/-!
# Trees of files

The files and folders that a run can see, by place. A folder need not be listed when there is
something below it. Everything may be done with a file or folder for which no less is noted.

A link stands for what its own path leads to from the folder that it is in. Paths are followed
over links; places are not.
-/
namespace OperationClasses

/-- Bytes are compared as the arrays that they are. -/
local instance decidableEqBytes : DecidableEq ByteArray := ByteArray.instDecidableEq

/-- Something at a place. -/
inductive FileEntry where
  | file (data : ByteArray)
  | folder
  | link (path : String)
  /-- A device that holds nothing and swallows what is written into it. -/
  | sink
  deriving DecidableEq

/-- What may be done with a file or folder; searching a folder is going on to what is in it. -/
structure Access where
  read : Bool := true
  write : Bool := true
  search : Bool := true
  deriving Repr, DecidableEq

/-- The access that a mode gives to the owner. -/
def Access.ofMode (mode : Nat) : Access where
  read := mode.testBit 8
  write := mode.testBit 7
  search := mode.testBit 6

/-- The files and folders that a run can see. -/
structure FileTree where
  entries : List (Place × FileEntry)
  /-- Where not everything may be done. -/
  limits : List (Place × Access) := []

namespace FileTree

def entry? (t : FileTree) (p : Place) : Option FileEntry := t.entries.lookup p

def content? (t : FileTree) (p : Place) : Option ByteArray :=
  match t.entry? p with
  | some (.file data) => some data
  | _ => none

def isFile (t : FileTree) (p : Place) : Bool := (t.content? p).isSome

/-- The root is a folder, and so is what is listed as one or has something below it. -/
def isFolder (t : FileTree) (p : Place) : Bool :=
  p.isEmpty || t.entry? p == some .folder ||
    t.entries.any fun e => p.isPrefixOf e.1 && p.length < e.1.length

/-- Whether there is anything. -/
def isTaken (t : FileTree) (p : Place) : Bool := (t.entry? p).isSome || t.isFolder p

def access (t : FileTree) (p : Place) : Access := (t.limits.lookup p).getD {}

/-- Goes from a place to a name in it. -/
def enter (t : FileTree) (p : Place) (name : String) : Except FileCause Place :=
  if !t.isFolder p then .error .notFolder
  else if !(t.access p).search then .error .denied
  else if Path.maxNameSize < name.utf8ByteSize then .error .nameTooLong
  else .ok (p.step name)

/-- How many links can be followed on one path. -/
def maxLinks : Nat := 40

/-- Follows names, each of which has to be looked up in a folder; the last one need not be there if
that is allowed. At a link its own names come first, and how to go on is another matter. -/
def walkNames (t : FileTree) (mayMiss : Bool)
    (follow : Place → List String → Except FileCause Place) :
    Place → List String → Except FileCause Place
  | p, [] => .ok p
  | p, name :: rest =>
    match t.enter p name with
    | .error c => .error c
    | .ok q =>
      match t.entry? q with
      | some (.link path) => follow (Place.start p path) (Path.parts path ++ rest)
      | some _ => t.walkNames mayMiss follow q rest
      | none =>
        if t.isFolder q || mayMiss && rest.isEmpty then t.walkNames mayMiss follow q rest
        else .error .missing

/-- Follows names over links; the number is that of the links that can still be followed. -/
def walk (t : FileTree) (mayMiss : Bool) : Nat → Place → List String → Except FileCause Place
  | 0 => t.walkNames mayMiss fun _ _ => .error .tooManyLinks
  | links + 1 => t.walkNames mayMiss (t.walk mayMiss links)

/-- A path that can be looked up: it holds no null character and is neither empty nor too long. -/
def checkPath (path : String) : Except FileCause Unit :=
  if path.toList.contains '\x00' then .error .nullCharacter
  else if path = "" then .error .missing
  else if Path.maxSize < path.utf8ByteSize then .error .nameTooLong
  else .ok ()

/-- The place of the file or folder that a path leads to. -/
def locate (t : FileTree) (here : Place) (path : String) : Except FileCause Place := do
  checkPath path
  t.walk false maxLinks (Place.start here path) (Path.parts path)

/-- The place of the file or folder that a path leads to. -/
def find? (t : FileTree) (here : Place) (path : String) : Option Place :=
  (t.locate here path).toOption

/-- Goes through names, whether there is anything or not. At a link its own names come first, and how
to go on is another matter. -/
def resolveNames (t : FileTree) (follow : Place → List String → Place) :
    Place → List String → Place
  | p, [] => p
  | p, name :: rest =>
    match t.entry? (p.step name) with
    | some (.link path) => follow (Place.start p path) (Path.parts path ++ rest)
    | _ => t.resolveNames follow (p.step name) rest

/-- Goes through names and over links; the number is that of the links that can still be followed.
Those beyond are gone through like folders. -/
def resolveWithin (t : FileTree) : Nat → Place → List String → Place
  | 0 => fun p names => names.foldl Place.step p
  | links + 1 => t.resolveNames (t.resolveWithin links)

/-- The place that a path leads to over links, whether there is anything or not. -/
def resolve (t : FileTree) (here : Place) (path : String) : Place :=
  t.resolveWithin maxLinks (Place.start here path) (Path.parts path)

/-- Whether a file can be come upon by looking into one folder after another. -/
def isListed (t : FileTree) (p : Place) (names : List String) : Bool :=
  (List.range names.length).all fun i =>
    let a := t.access (p ++ names.take i)
    a.read && (a.search || i + 1 = names.length)

/-- Whether an entry at a place is not a folder, nor a link that leads to one. -/
def isLeaf (t : FileTree) (p : Place) : FileEntry → Bool
  | .folder => false
  | .link path => !(t.find? p.parent path).any t.isFolder
  | .file _ | .sink => true

/-- The names that lead from a folder to the files below it. -/
def filesBelow (t : FileTree) (p : Place) : List (List String) :=
  t.entries.filterMap fun (q, e) =>
    if p.isPrefixOf q && p.length < q.length && t.isLeaf q e && t.isListed p (q.drop p.length)
    then some (q.drop p.length)
    else none

/-- Whether a name has one of several endings. -/
def hasEnding (endings : List String) (name : String) : Bool :=
  endings.any (Text.endsWith name)

/-- The paths of the files at or below a path whose names have one of several endings, in
alphabetical order. Where nothing is there are no files. -/
def collect (t : FileTree) (here : Place) (path : String) (endings : List String) :
    Except FileFault (List String) :=
  match t.locate here path with
  | .error .nullCharacter => .error ⟨.nullCharacter, path⟩
  | .error _ => .ok []
  | .ok p =>
    if t.isFile p then .ok (if hasEnding endings path then [path] else [])
    else
      let below := (t.filesBelow p).filter fun names => hasEnding endings (names.getLast?.getD "")
      .ok ((below.map fun names => Path.join path ("/".intercalate names)).mergeSort
        fun a b => decide (a ≤ b))

/-- Why no text can be read. -/
inductive ReadFault where
  | file (fault : FileFault)
  | undecodable (fault : Text.Utf8Fault)
  deriving Repr, DecidableEq

/-- What stands in the way of reading the file at a place, or its content. -/
def readAt (t : FileTree) (p : Place) : Except FileCause ByteArray :=
  if !(t.access p).read then .error .denied
  else match t.entry? p with
    | some (.file data) => .ok data
    | some .sink => .ok .empty
    | some (.link _) => .error .tooManyLinks
    | some .folder | none => .error .isFolder

/-- The content of the file that a path leads to. -/
def read (t : FileTree) (here : Place) (path : String) : Except FileFault ByteArray :=
  match t.locate here path with
  | .error c => .error ⟨c, path⟩
  | .ok p => (t.readAt p).mapError (⟨·, path⟩)

/-- The text of a file, with line feeds at the ends of its lines. -/
def readText (t : FileTree) (here : Place) (path : String) : Except ReadFault String :=
  match t.read here path with
  | .error f => .error (.file f)
  | .ok data =>
    match Text.Utf8.decode data with
    | .error f => .error (.undecodable f)
    | .ok s => .ok (String.ofList (Text.unifyLineEnds s.toList))

/-- Puts an entry at a place. -/
def put (p : Place) (e : FileEntry) : List (Place × FileEntry) → List (Place × FileEntry)
  | [] => [(p, e)]
  | (q, d) :: rest => if q = p then (p, e) :: rest else (q, d) :: put p e rest

/-- The tree with an entry at a place. -/
def insert (t : FileTree) (p : Place) (e : FileEntry) : FileTree :=
  { t with entries := put p e t.entries }

/-- The tree without what is at a place. -/
def remove (t : FileTree) (p : Place) : FileTree :=
  ⟨t.entries.filter (·.1 ≠ p), t.limits.filter (·.1 ≠ p)⟩

/-- The files of a later tree that an earlier one does not have in this form. -/
def changes (before after : FileTree) : List (Place × ByteArray) :=
  after.entries.filterMap fun (p, e) =>
    match e with
    | .file data => if before.content? p = some data then none else some (p, data)
    | .folder | .link _ | .sink => none

end FileTree

end OperationClasses
