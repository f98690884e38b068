import OperationClasses.Archive.Bzip2
import OperationClasses.Archive.Inflate
import OperationClasses.Archive.Lzma
import OperationClasses.Text.CodePage
import OperationClasses.Text.Pieces
import OperationClasses.Text.Quoted
import OperationClasses.Text.Utf8

/-!
# Zip files

Members anywhere in the file, listed by a directory near its end. A member is stored as it is or
compressed, and carries a checksum. A file without the record that ends the directory is no zip
file. Bytes before the first member do not matter: positions are counted from where the
directory says it begins.
-/
namespace OperationClasses.Archive.Zip

/-- What the directory says of a member. -/
structure Entry where
  /-- The name, with what may follow a zero in it. -/
  fullName : String
  flags : Nat
  method : Nat
  check : Nat
  packedSize : Nat
  size : Nat
  attributes : Nat
  /-- Where the member begins. -/
  start : Int
  /-- Where it has ended. -/
  stop : Int
  deriving Repr

namespace Entry

def name (e : Entry) : String := String.ofList (e.fullName.toList.takeWhile (· ≠ '\x00'))

def isFolder (e : Entry) : Bool := Text.endsWith e.name "/"

def hasFlag (e : Entry) (n : Nat) : Bool := e.flags.testBit n

end Entry

/-- The words for methods of packing. -/
def methodNames : List (Nat × String) :=
  [(1, "shrink"), (2, "reduce"), (3, "reduce"), (4, "reduce"), (5, "reduce"), (6, "implode"),
    (7, "tokenize"), (8, "deflate"), (9, "deflate64"), (10, "implode"), (12, "bzip2"),
    (14, "lzma"), (18, "terse"), (19, "lz77"), (97, "wavpack"), (98, "ppmd")]

/-- The letter for what a mode says a file is. -/
def kindLetter (mode : Nat) : Char :=
  match mode / Nat.pow 2 12 with
  | 1 => 'p' | 2 => 'c' | 4 => 'd' | 6 => 'b' | 8 => '-' | 10 => 'l' | 12 => 's' | _ => '?'

/-- The letters for what a mode gives to one of owner, group and others: three bits from a
position on, and a letter in place of the last one when a further bit is set. -/
def accessLetters (mode shift bit : Nat) (special : Char) : List Char :=
  let execute := mode.testBit shift
  [if mode.testBit (shift + 2) then 'r' else '-', if mode.testBit (shift + 1) then 'w' else '-',
    if mode.testBit bit then if execute then special else special.toUpper
    else if execute then 'x' else '-']

/-- A mode in letters. -/
def modeText (mode : Nat) : String :=
  String.ofList (kindLetter mode :: (accessLetters mode 6 11 's' ++ accessLetters mode 3 10 's' ++
    accessLetters mode 0 9 't'))

/-- A member in words: its name and whatever of it is out of the ordinary. -/
def Entry.description (e : Entry) : String :=
  let high := e.attributes / Nat.pow 2 16
  let low := e.attributes % Nat.pow 2 16
  let part := fun (shown : Bool) (s : String) => if shown then " " ++ s else ""
  "<ZipInfo filename=" ++ Text.escaped e.name ++
    part (e.method ≠ 0)
      ("compress_type=" ++ (methodNames.lookup e.method).getD (toString e.method)) ++
    part (high ≠ 0) ("filemode=" ++ Text.escaped (modeText high)) ++
    part (low ≠ 0) ("external_attr=" ++ Text.hexText low) ++
    part (!e.isFolder || e.size ≠ 0) ("file_size=" ++ toString e.size) ++
    part ((!e.isFolder || e.packedSize ≠ 0) && (e.method ≠ 0 || e.size ≠ e.packedSize))
      ("compress_size=" ++ toString e.packedSize) ++ ">"

/-- Why a file is no zip file or a member cannot be unpacked. -/
inductive Fault where
  | noDirectory
  | severalDisks
  | directoryOffset
  | directoryCutShort
  | directoryMark
  | extra (kind size : Nat)
  | extraSize (part : String)
  | version (tenths : Nat)
  | beforeFile
  | headerCutShort
  | headerMark
  | patched
  | strongEncryption
  | otherName (listed : String) (found : List UInt8)
  | overlap (name : String)
  | encrypted (member : String)
  | method
  | checksum (name : String)
  | undecodable (fault : Text.Utf8Fault)
  | senseless (cause : Senseless)
  | senselessSorted
  | senselessCoded
  | unknownSettings
  | cutShort
  deriving Repr, DecidableEq

def Fault.message : Fault → String
  | .noDirectory => "File is not a zip file"
  | .severalDisks => "zipfiles that span multiple disks are not supported"
  | .directoryOffset => "Bad offset for central directory"
  | .directoryCutShort => "Truncated central directory"
  | .directoryMark => "Bad magic number for central directory"
  | .extra kind size =>
    "Corrupt extra field " ++ String.ofList (Text.hexFixed false 4 kind) ++ " (size=" ++
      toString size ++ ")"
  | .extraSize part => "Corrupt zip64 extra field. " ++ part ++ " not found."
  | .version tenths =>
    "zip file version " ++ toString (tenths / 10) ++ "." ++ toString (tenths % 10)
  | .beforeFile => "[Errno 22] Invalid argument"
  | .headerCutShort => "Truncated file header"
  | .headerMark => "Bad magic number for file header"
  | .patched => "compressed patched data (flag bit 5)"
  | .strongEncryption => "strong encryption (flag bit 6)"
  | .otherName listed found =>
    "File name in directory " ++ Text.escaped listed ++ " and header " ++
      Text.escapedBytes found ++ " differ."
  | .overlap name => "Overlapped entries: " ++ Text.escaped name ++ " (possible zip bomb)"
  | .encrypted member =>
    "File " ++ member ++ " is encrypted, password required for extraction"
  | .method => "That compression method is not supported"
  | .checksum name => "Bad CRC-32 for file " ++ Text.escaped name
  | .undecodable fault => fault.message
  | .senseless cause => cause.message
  | .senselessSorted => "Invalid data stream"
  | .senselessCoded => "Corrupt input data"
  | .unknownSettings => "Invalid or unsupported options"
  | .cutShort => ""

/-- Whether the four bytes of a mark stand at a position. -/
def hasMark (data : ByteArray) (start mark : Nat) : Bool := little? data start 4 == some mark

/-- The mark of the record that ends the directory. -/
def endMark : Nat := 0x06054b50

def entryMark : Nat := 0x02014b50

def memberMark : Nat := 0x04034b50

/-- The last position at or before a given one at which the mark of the end stands. -/
def lastEnd? (data : ByteArray) : Nat → Option Nat
  | 0 => if hasMark data 0 endMark then some 0 else none
  | n + 1 => if hasMark data (n + 1) endMark then some (n + 1) else lastEnd? data n

/-- The position of the record that ends the directory: at the very end of the file, or the last
one before a remark of at most 64 KiB. -/
def endRecord? (data : ByteArray) : Option Nat :=
  if data.size < 22 then none
  else if hasMark data (data.size - 22) endMark && little? data (data.size - 2) 2 = some 0 then
    some (data.size - 22)
  else do
    let i ← lastEnd? data data.size
    if i + Nat.pow 2 16 + 22 < data.size || data.size < i + 22 then none else some i

/-- What the end of a zip file says of the directory. -/
structure DirectoryEnd where
  size : Nat
  /-- Where the directory is said to begin. -/
  start : Nat
  /-- Where it ends. -/
  stop : Nat

/-- The mark of the record that tells numbers for which there is no room in the last one. -/
def largeEndMark : Nat := 0x06064b50

/-- The mark of the record that tells where that one is. It is looked for right before this one,
though. -/
def largeEndPlaceMark : Nat := 0x07064b50

/-- The sizes of these records. -/
def largeEndSize : Nat := 56

def largeEndPlaceSize : Nat := 20

/-- What the end record at a position and those before it say of the directory. -/
def directoryEnd (data : ByteArray) (stop : Nat) : Except Fault DirectoryEnd := do
  let field := fun start width => (little? data start width).getD 0
  let small : DirectoryEnd := ⟨field (stop + 12) 4, field (stop + 16) 4, stop⟩
  let place := stop - largeEndPlaceSize
  if stop < largeEndPlaceSize || !hasMark data place largeEndPlaceMark then return small
  if field (place + 4) 4 ≠ 0 || 1 < field (place + 16) 4 then throw .severalDisks
  if place < largeEndSize then throw .noDirectory
  let large := place - largeEndSize
  if !hasMark data large largeEndMark then return small
  return ⟨field (large + 40) 8, field (large + 48) 8, large⟩

/-- A name, in the encoding that a flag tells. -/
def decodeName (flags : Nat) (bytes : ByteArray) : Except Fault String :=
  if flags.testBit 11 then (Text.Utf8.decode bytes).mapError .undecodable
  else .ok (Text.pageText bytes.toList)

/-- A number that only an extra field has room for, if a field says so, and the rest of it. -/
def large (part : String) (limits : List Nat) (n : Nat) (data : ByteArray) :
    Except Fault (Nat × ByteArray) :=
  if !limits.contains n then .ok (n, data)
  else match little? data 0 8 with
    | some m => .ok (m, data.extract 8 data.size)
    | none => .error (.extraSize part)

/-- The entry with the numbers of its extra fields. The bound is one on their number. -/
def withExtra (e : Entry) : Nat → ByteArray → Except Fault Entry
  | 0, _ => .ok e
  | n + 1, extra =>
    match little? extra 0 2, little? extra 2 2 with
    | some kind, some size =>
      if extra.size < size + 4 then .error (.extra kind size)
      else if kind ≠ 1 then withExtra e n (extra.extract (size + 4) extra.size)
      else do
        let data := extra.extract 4 (size + 4)
        let (fileSize, data) ← large "File size" [Nat.pow 2 64 - 1, Nat.pow 2 32 - 1] e.size data
        let (packedSize, data) ← large "Compress size" [Nat.pow 2 32 - 1] e.packedSize data
        let (start, _) ← large "Header offset" [Nat.pow 2 32 - 1] e.start.toNat data
        withExtra { e with size := fileSize, packedSize, start := start } n
          (extra.extract (size + 4) extra.size)
    | _, _ => .ok e

/-- The greatest version of the format that can be read, in tenths. -/
def maxVersion : Nat := 63

/-- The members that a directory lists from a position on. -/
def entriesFrom (directory : ByteArray) (size : Nat) : Nat → Nat → Except Fault (List Entry)
  | 0, _ => .ok []
  | n + 1, i =>
    if size ≤ i then .ok []
    else do
      if directory.size < i + 46 then throw .directoryCutShort
      if !hasMark directory i entryMark then throw .directoryMark
      let field := fun start width => (little? directory (i + start) width).getD 0
      let nameEnd := i + 46 + field 28 2
      let extraEnd := nameEnd + field 30 2
      let name ← decodeName (field 8 2) (directory.extract (i + 46) nameEnd)
      if maxVersion < field 6 1 then throw (.version (field 6 1))
      let e : Entry := ⟨name, field 8 2, field 10 2, field 16 4, field 20 4, field 24 4,
        field 38 4, field 42 4, 0⟩
      let extra := directory.extract nameEnd extraEnd
      let e ← withExtra e (extra.size + 1) extra
      return e :: (← entriesFrom directory size n (extraEnd + field 32 2))

/-- The members with where each has to end: where the next one begins, or the directory. Of those
that begin at one position only the first has room. -/
def withStops (directoryStart : Nat) (es : List Entry) : List Entry :=
  es.zipIdx.map fun (e, i) =>
    let later := (es.map (·.start)).filter (e.start < ·)
    { e with stop :=
      if (es.take i).any (·.start = e.start) then e.start
      else (later.min?).getD (directoryStart : Int) }

/-- The members of a zip file. -/
def entries (data : ByteArray) : Except Fault (List Entry) := do
  match endRecord? data with
  | none => throw .noDirectory
  | some i =>
    let d ← directoryEnd data i
    if d.stop < d.size then throw .directoryOffset
    let start := d.stop - d.size
    let shift : Int := start - (d.start : Nat)
    let es ← entriesFrom (data.extract start d.stop) d.size (d.size + 1) 0
    return withStops start (es.map fun e => { e with start := e.start + shift })

/-- The member of a name; of several, the last one. -/
def find? (es : List Entry) (name : String) : Option Entry :=
  es.reverse.find? (·.name = name)

/-- The bytes of a member up to its size, unless their checksum is another one. -/
def checked (e : Entry) (data : ByteArray) : Except Fault ByteArray :=
  let data := slice data 0 e.size
  if (checksum data).toNat = e.check then .ok data else .error (.checksum e.name)

/-- What packed bytes stand for. A stream may lack its end, and so may the bytes. -/
structure Content where
  output : ByteArray
  fault? : Option Fault := none
  isWhole : Bool

/-- The content of unpacked bytes, with the fault that a cause is. -/
def Content.ofUnpacked {ε : Type} (cause : ε → Fault) (u : Unpacked ε) : Content where
  output := u.output
  fault? := match u.stop with
    | .error (.senseless c) => some (cause c)
    | _ => none
  isWhole := u.stop.isOk

/-- The content of range-coded bytes. Their settings are behind a version and the size of the
settings. -/
def codedContent (packed : ByteArray) : Content :=
  match little? packed 2 2 with
  | none => { output := .empty, isWhole := false }
  | some size =>
    if packed.size ≤ 4 + size then { output := .empty, isWhole := false }
    else match Lzma.Settings.ofBytes? (packed.extract 4 (4 + size)) with
      | none => { output := .empty, fault? := some .unknownSettings, isWhole := false }
      | some t =>
        .ofUnpacked (fun _ => .senselessCoded) (Lzma.unpack t (packed.extract (4 + size) packed.size))

/-- The content of packed bytes, if their method is known. -/
def content? (method : Nat) (packed : ByteArray) : Option Content :=
  match method with
  | 0 => some { output := packed, isWhole := false }
  | 8 => some (.ofUnpacked .senseless (inflate packed 0))
  | 12 => some (.ofUnpacked (fun _ => .senselessSorted) (Bzip2.unpack packed))
  | 14 => some (codedContent packed)
  | _ => none

/-- The bytes that a member stands for, whose packed bytes may be fewer than it says. Those that
are missing do not matter when there are enough without them. -/
def unpacked (e : Entry) (packed : ByteArray) (c : Content) : Except Fault ByteArray :=
  let isShort := packed.size < e.packedSize
  if isShort && packed.isEmpty then .error .cutShort
  else match c.fault? with
    | some f => .error f
    | none =>
      if isShort && !c.isWhole && c.output.size < e.size then .error .cutShort
      else checked e c.output

/-- The bytes of a member. What its header says is checked first; a fault of the bytes themselves
shows only when they are read. -/
def content (data : ByteArray) (e : Entry) :
    Except Fault (Except Fault ByteArray) := do
  if e.start < 0 then throw .beforeFile
  let start := e.start.toNat
  if data.size < start + 30 then throw .headerCutShort
  if !hasMark data start memberMark then throw .headerMark
  let field := fun i width => (little? data (start + i) width).getD 0
  let nameEnd := start + 30 + field 26 2
  let found := data.extract (start + 30) nameEnd
  if e.hasFlag 5 then throw .patched
  if e.hasFlag 6 then throw .strongEncryption
  if (← decodeName (field 6 2) found) ≠ e.fullName then
    throw (.otherName e.fullName found.toList)
  let i := nameEnd + field 28 2
  if e.stop < ((i + e.packedSize : Nat) : Int) then throw (.overlap e.fullName)
  if e.hasFlag 0 then throw (.encrypted e.description)
  let packed := slice data i (i + e.packedSize)
  match content? e.method packed with
  | none => throw .method
  | some c => return unpacked e packed c

end OperationClasses.Archive.Zip
