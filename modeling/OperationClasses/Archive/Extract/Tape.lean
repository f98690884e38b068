import OperationClasses.Archive.Extract.Fault

/-!
# Extracting tape archives

Members become files, folders and links below a folder one after another, with the modes that
they have; those of folders are set in the end. A link that cannot be made gives way to the
member that it leads to, and is passed over if there is none.
-/
namespace OperationClasses.Archive

/-- A tape archive whose members are unpacked below a folder. -/
structure TapeArchive where
  tape : Tape
  members : List Tar.Entry
  /-- Why there are no more members. -/
  fault? : Option Tar.Fault
  folder : Place

/-- What stands in the way of a member. -/
inductive Obstacle where
  | fault (fault : MemberFault)
  /-- There is no member that a link leads to. -/
  | nothingLinked (name : String)
  /-- Neither the link nor what it leads to can be unpacked. -/
  | unresolved

/-- A step of unpacking a tape archive. -/
abbrev TapeStep := Unpacking Obstacle

def Obstacle.ofFile (f : FileFault) : Obstacle := .fault (.file f)

def Obstacle.ofTar (f : Tar.Fault) : Obstacle := .fault (.tar f)

/-- Whether an obstacle lies with the files rather than with the archive. -/
def Obstacle.isOfFiles : Obstacle → Bool
  | .fault (.file f) => f.cause ≠ .nullCharacter
  | .fault (.device _) => true
  | .fault (.tar (.gzip (.inflate _))) => false
  | .fault (.tar (.gzip _)) => true
  | .fault _ | .nothingLinked _ | .unresolved => false

namespace TapeArchive

/-- The path of a name below the folder. -/
def path (a : TapeArchive) (name : String) : String := Path.join a.folder.text name

/-- Gives the file or folder at a path the access of a mode. The folders above the one in which the
archive is unpacked belong to others. -/
def setMode (a : TapeArchive) (path : String) (mode : Nat) : TapeStep Unit :=
  modify fun t =>
    match t.find? [] path with
    | none => t
    | some p =>
      if p.length < a.folder.length && p.isPrefixOf a.folder then t
      else
        let others := t.limits.filter (·.1 ≠ p)
        let access := Access.ofMode mode
        { t with limits := if access = {} then others else (p, access) :: others }

/-- The name of what a link leads to. -/
def linkedName (e : Tar.Entry) : String :=
  if e.kind = '2' && Path.folder e.name ≠ "" && e.linkName ≠ "" then
    Path.folder e.name ++ "/" ++ e.linkName
  else if e.kind = '2' && e.linkName = "" then Path.folder e.name
  else e.linkName

/-- The member that a link leads to, the last one of that name; before the link, if it is not a
symbolic one. To look for it the archive has to be readable to its end. -/
def linked (a : TapeArchive) (e : Tar.Entry) : TapeStep Tar.Entry := do
  match a.fault? with
  | some f => throw (.ofTar f)
  | none =>
    let members := if e.kind = '2' then a.members else a.members.takeWhile (·.start ≠ e.start)
    let name := Path.plain (linkedName e)
    match members.reverse.find? fun f => Path.plain f.name = name with
    | some f => return f
    | none => throw (.nothingLinked (linkedName e))

/-- Makes a symbolic link in place of what is there. -/
def makeSymbolicLink (e : Tar.Entry) (path : String) : TapeStep Unit := do
  match (← get).lastStep [] path with
  | .error _ => pure ()
  | .ok (p, name) =>
    if (← get).isTaken (p.step name) then
      Unpacking.change Obstacle.ofFile path fun t => t.unlink [] path
  Unpacking.change Obstacle.ofFile path fun t => t.makeLink [] path e.linkName

/-- Makes another name for what is at the end of a link. The mode of a file is that of all its
names. -/
def makeHardLink (a : TapeArchive) (e : Tar.Entry) (path : String) : TapeStep Unit := do
  let target := a.path e.linkName
  Unpacking.change Obstacle.ofFile path fun t => t.makeName [] path target
  let t ← get
  if (t.locateName [] target).toOption.any t.isFile then a.setMode target e.mode

/-- Makes a device. None comes into being, and some would not be allowed to. -/
def makeDevice (e : Tar.Entry) (path : String) : TapeStep Unit := do
  match (← get).create [] path .sink with
  | .error c => throw (.fault (.device (some c)))
  | .ok _ => if e.kind = '4' then throw (.fault (.device none))

/-- Gives what a member has become its mode, unless it is a symbolic link. -/
def setModeOf (a : TapeArchive) (e : Tar.Entry) (path : String) : TapeStep Unit :=
  if e.kind = '2' then pure () else a.setMode path e.mode

/-- Makes at a path what a member is. The bound is one on how many links lead to one another before
one of them is met again. -/
def make (a : TapeArchive) : Nat → String → Tar.Entry → TapeStep Unit
  | 0, _, _ => throw (.fault .endlessLinks)
  | n + 1, path, e => do
    Unpacking.makeFolderAbove .ofFile path
    let makeLinked : TapeStep Unit := do
      let f ← a.linked e
      make a n path f
      a.setModeOf f path
    let insteadOf (link : TapeStep Unit) : TapeStep Unit :=
      tryCatch link fun o =>
        if o.isOfFiles then
          tryCatch makeLinked fun o =>
            match o with
            | .nothingLinked _ => throw .unresolved
            | o => throw o
        else throw o
    match e.kind with
    | '5' => Unpacking.makeFolder .ofFile path
    | '2' => insteadOf (makeSymbolicLink e path)
    | '1' =>
      insteadOf do
        if ((← get).find? [] (a.path e.linkName)).isSome then a.makeHardLink e path
        else makeLinked
    | '3' | '4' | '6' => makeDevice e path
    | _ => Unpacking.makeFile .ofFile path ((Tar.content a.tape e).mapError .ofTar)

/-- Unpacks a member, or passes it over. -/
def unpackEntry (a : TapeArchive) (e : Tar.Entry) : TapeStep Unit := do
  let path := Path.withoutEnd (a.path e.name)
  let unpack := do
    make a (a.members.length + 1) path e
    if !e.isFolder then a.setModeOf e path
  tryCatch unpack fun o =>
    match o with
    | .unresolved => pure ()
    | o => throw o

/-- Unpacks the members. Folders have their modes in the end, those with the least names last. -/
def unpack (a : TapeArchive) : TapeStep Unit := do
  a.members.forM a.unpackEntry
  match a.fault? with
  | some f => throw (.ofTar f)
  | none =>
    let folders := (a.members.filter (·.isFolder)).mergeSort fun d e => decide (e.name ≤ d.name)
    folders.forM fun e => a.setMode (a.path e.name) e.mode

end TapeArchive

/-- Unpacks the members of a tape archive. -/
def unpackTar (data : ByteArray) (folder : Place) : Unpacking MemberFault Unit :=
  let tape := Gzip.tape data
  let (members, fault?) := Tar.entries tape
  let a : TapeArchive := ⟨tape, members, fault?, folder⟩
  ExceptT.adapt (fun o =>
    match o with
    | .fault f => f
    | .nothingLinked name => .tar (.nothingLinked name)
    | .unresolved => .tar (.nothingLinked "")) a.unpack

end OperationClasses.Archive
