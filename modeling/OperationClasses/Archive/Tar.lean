import OperationClasses.Archive.Gzip
import OperationClasses.Files.Path
import OperationClasses.Text.Blank
import OperationClasses.Text.Utf8

/-!
# Tape archives

Members one after another, each with a header block and its bytes filled up to whole blocks of
512. A header gives the name, the size in octal digits, the mode and what the member is. What
does not fit is given by a member of its own in front of it: a long name, or records that hold
for the next member or for all that follow. An empty block ends the archive, and so does a
header that is none, unless it is the first one.

Of a file with holes only the pieces between them are there. Where they belong is listed in the
header and further blocks behind it, in records, or in lines before the bytes.
-/
namespace OperationClasses.Archive.Tar

def blockSize : Nat := 512

/-- A number rounded up to whole blocks. -/
def padded (n : Nat) : Nat := (n + blockSize - 1) / blockSize * blockSize

/-- Why a block is no header. -/
inductive HeaderFault where
  | empty | cutShort | zero | invalid | checksum
  deriving Repr, DecidableEq

def HeaderFault.text : HeaderFault → String
  | .empty => "empty header"
  | .cutShort => "truncated header"
  | .zero => "end of file header"
  | .invalid => "invalid header"
  | .checksum => "bad checksum"

/-- Why a member cannot be read: its first block is no header, the one after a block in front of
it is none, or the tape ends. -/
inductive EntryFault where
  | header (fault : HeaderFault)
  | following (fault : HeaderFault)
  | tape (fault : GzipFault)
  deriving Repr, DecidableEq

/-- The bytes of a field up to a zero. -/
def field (block : ByteArray) (start length : Nat) : List UInt8 :=
  ((block.extract start (start + length)).toList).takeWhile (· ≠ 0)

/-- The text that bytes spell. Bytes that spell none stand for the characters of their numbers. -/
def text (bytes : List UInt8) : String :=
  match Text.Utf8.decode ⟨bytes.toArray⟩ with
  | .ok s => s
  | .error _ => String.ofList (bytes.map fun b => Char.ofNat b.toNat)

/-- The number that octal digits spell, single lines between them aside. -/
def octal? : List Char → Option Nat
  | [] => none
  | cs =>
    let groups := (cs.splitOn '_')
    if groups.all fun g => !g.isEmpty && g.all fun c => '0' ≤ c && c ≤ '7' then
      some (groups.flatten.foldl (fun n c => 8 * n + (c.toNat - '0'.toNat)) 0)
    else none

/-- A whole number in octal digits, perhaps with a sign and a mark of the base. -/
def signedOctal? (cs : List Char) : Option Int :=
  let unmarked := fun cs : List Char =>
    match cs with
    | '0' :: 'o' :: '_' :: rest | '0' :: 'O' :: '_' :: rest => rest
    | '0' :: 'o' :: rest | '0' :: 'O' :: rest => rest
    | cs => cs
  match cs with
  | '-' :: rest => (octal? (unmarked rest)).map fun n => -(n : Int)
  | '+' :: rest => (octal? (unmarked rest)).map fun n => (n : Int)
  | cs => (octal? (unmarked cs)).map fun n => (n : Int)

/-- The number of a field: its bytes are octal digits, or the digits of a number in base 256
behind a mark that tells its sign. -/
def number (block : ByteArray) (start length : Nat) : Except HeaderFault Int :=
  let bytes := (block.extract start (start + length)).toList
  let big := (bytes.drop 1).foldl (fun n b => 256 * n + (b.toNat : Int)) 0
  match bytes.head? with
  | some 0x80 => .ok big
  | some 0xff => .ok (big - Int.pow 256 (length - 1))
  | _ =>
    let digits := bytes.takeWhile (· ≠ 0)
    let cs := Text.trim (digits.map fun b => Char.ofNat b.toNat)
    if cs.isEmpty && digits.all (· < 0x80) then .ok 0
    else match signedOctal? cs with
      | some n => if digits.all (· < 0x80) then .ok n else .error .invalid
      | none => .error .invalid

/-- The sums of the bytes of a header, those of its checksum counted as spaces; bytes are taken
without and with a sign. -/
def checksums (block : ByteArray) : List Int :=
  let bytes := (block.extract 0 148).toList ++ (block.extract 156 blockSize).toList
  let unsigned : Int := bytes.foldl (fun n b => n + (b.toNat : Int)) 256
  let negative := (bytes.filter (0x80 ≤ ·)).length
  [unsigned, unsigned - 256 * (negative : Int)]

/-- A member of an archive. -/
structure Entry where
  name : String
  linkName : String
  mode : Nat
  size : Nat
  kind : Char
  /-- Where its bytes begin. -/
  start : Nat
  /-- Where the next header is. -/
  next : Nat
  /-- The places and sizes of the pieces of a file with holes, whose bytes follow one another. -/
  pieces? : Option (List (Nat × Nat)) := none
  deriving Repr

/-- The kinds of members that hold bytes of a file. -/
def fileKinds : List Char := ['0', '\x00', '7', 'S']

/-- The kinds of members that are something else. -/
def otherKinds : List Char := ['1', '2', '3', '4', '5', '6', 'L', 'K']

namespace Entry

/-- Whether a member is followed by its bytes; of members of unknown kind that is assumed. -/
def hasBytes (e : Entry) : Bool := fileKinds.contains e.kind || !otherKinds.contains e.kind

def isFolder (e : Entry) : Bool := e.kind = '5'

/-- The member, with the place of the next header behind its bytes. -/
def withNext (e : Entry) : Entry :=
  { e with next := e.start + if e.hasBytes then padded e.size else 0 }

/-- The member, without a slash at the end of the name of a folder. -/
def trimmed (e : Entry) : Entry :=
  if e.isFolder then { e with name := Path.withoutEnd e.name } else e

end Entry

/-- The header in a block that begins at a position. -/
def header (block : ByteArray) (position : Nat) : Except HeaderFault Entry := do
  if block.size = 0 then throw .empty
  if block.size ≠ blockSize then throw .cutShort
  if block.toList.all (· = 0) then throw .zero
  let stated ← number block 148 8
  if !(checksums block).contains stated then throw .checksum
  let mode ← number block 100 8
  let size ← number block 124 12
  for (start, length) in [(108, 8), (116, 8), (136, 12), (329, 8), (337, 8)] do
    let _ ← number block start length
  let name := text (field block 0 100)
  let kind := Char.ofNat ((block[156]?.map (·.toNat)).getD 0)
  let kind := if kind = '\x00' && Text.endsWith name "/" then '5' else kind
  let first := text (field block 345 155)
  let e : Entry := ⟨name, text (field block 157 100), mode.toNat, size.toNat, kind,
    position + blockSize, position, none⟩
  let e := e.trimmed
  return if first = "" || ['L', 'K', 'S'].contains kind then e
    else { e with name := first ++ "/" ++ e.name }

/-- What is said of members in front of them, the latest first. -/
abbrev Records := List (String × String)

/-- Records of the form length, space, key, equals sign, value, line feed; the length is that of
all of it. The bound is one on their number. -/
def records? : Nat → List UInt8 → Option Records
  | 0, _ => none
  | n + 1, bytes =>
    if bytes.head?.all (· = 0) then some []
    else do
      let digits := bytes.takeWhile fun b => 0x30 ≤ b && b ≤ 0x39
      let length := digits.foldl (fun n b => 10 * n + (b.toNat - 0x30)) 0
      if digits.isEmpty || 20 < digits.length || bytes[digits.length]? ≠ some 0x20 then none
      if length < 5 || bytes.length < length then none
      let entry := (bytes.take length).drop (digits.length + 1)
      let key := entry.dropLast.takeWhile (· ≠ 0x3d)
      let value := entry.dropLast.drop (key.length + 1)
      if key.isEmpty || entry.dropLast[key.length]? ≠ some 0x3d || entry.getLast? ≠ some 0x0a then
        none
      let rest ← records? n (bytes.drop length)
      return rest ++ [(text key, text value)]

/-- The member with what a record says of it. -/
def Entry.applyingRecord (e : Entry) (key value : String) : Entry :=
  match key with
  | "path" => { e with name := Path.withoutEnd value }
  | "GNU.sparse.name" => { e with name := value }
  | "linkpath" => { e with linkName := value }
  | "size" | "GNU.sparse.size" | "GNU.sparse.realsize" =>
    { e with size := value.toNat?.getD 0 }
  | _ => e

/-- The member with what records say of it. They are taken in the order in which their keys were
met first. -/
def Entry.applying (e : Entry) (rs : Records) : Entry :=
  ((rs.reverse.map (·.1)).eraseDups).foldl (fun e key =>
    e.applyingRecord key ((rs.lookup key).getD "")) e

/-- Pieces that are listed in a block, a number from a position on. -/
def piecesIn (block : ByteArray) (start count : Nat) :
    Except HeaderFault (List (Nat × Nat)) :=
  (List.range count).mapM fun i => do
    let place ← number block (start + 24 * i) 12
    let size ← number block (start + 24 * i + 12) 12
    return (place.toNat, size.toNat)

/-- Pieces that are listed in blocks from a position on, and the position behind them. Each block
tells whether there is another one. -/
def piecesFrom (t : Tape) : Nat → Nat → Except EntryFault (List (Nat × Nat) × Nat)
  | 0, _ => .error (.header .invalid)
  | n + 1, position => do
    let block ← (t.read position blockSize).mapError .tape
    let pieces ← (piecesIn block 0 21).mapError .header
    let pieces := pieces.filter fun (place, size) => place ≠ 0 && size ≠ 0
    if (block[504]?).any (· ≠ 0) then
      let (others, position) ← piecesFrom t n (position + blockSize)
      return (pieces ++ others, position)
    else return (pieces, position + blockSize)

/-- A file with holes whose header lists the first pieces. -/
def withListedPieces (t : Tape) (block : ByteArray) (e : Entry) : Except EntryFault Entry := do
  let pieces ← (piecesIn block 386 4).mapError .header
  let size ← (number block 483 12).mapError .header
  let (others, start) ←
    if (block[482]?).any (· ≠ 0) then piecesFrom t (t.bytes.size / blockSize + 1) e.start
    else .ok ([], e.start)
  return { e with
    start, size := size.toNat, next := start + padded e.size, pieces? := some (pieces ++ others) }

/-- Numbers in pairs; a last one without another does not count. -/
def pairs : List Nat → List (Nat × Nat)
  | a :: b :: rest => (a, b) :: pairs rest
  | _ => []

/-- The number on the first line of bytes, and what is behind it. -/
def lineNumber? (bytes : List UInt8) : Option (Nat × List UInt8) := do
  let line := bytes.takeWhile (· ≠ 0x0a)
  if line.length = bytes.length then none
  return (← (text line).toNat?, bytes.drop (line.length + 1))

/-- A number of numbers on lines, in blocks from a position on, and the position behind them. Some
bytes were read before. -/
def linesFrom (t : Tape) (position : Nat) (bytes : List UInt8) :
    Nat → Except EntryFault (List Nat × Nat)
  | 0 => .ok ([], position)
  | n + 1 => do
    let isOut := !bytes.contains 0x0a
    let more ← if isOut then (t.read position blockSize).mapError .tape else .ok .empty
    let position := if isOut then position + blockSize else position
    match lineNumber? (bytes ++ more.toList) with
    | none => .error (.header .invalid)
    | some (first, bytes) =>
      let (others, position) ← linesFrom t position bytes n
      return (first :: others, position)

/-- The file before whose bytes lines tell how many pieces there are and where they belong. -/
def withPieceLines (t : Tape) (e : Entry) : Except EntryFault Entry := do
  let block ← (t.read e.start blockSize).mapError .tape
  match lineNumber? block.toList with
  | none => .error (.header .invalid)
  | some (count, bytes) =>
    let (numbers, start) ← linesFrom t (e.start + blockSize) bytes (2 * count)
    return { e with start, pieces? := some (pairs numbers) }

/-- The member with the pieces of which records tell. Those of the header at hand are `given`. -/
def withRecordedPieces (t : Tape) (given rs : Records) (e : Entry) : Except EntryFault Entry :=
  let all := fun (texts : List String) =>
    match texts.mapM (·.toNat?) with
    | some numbers => Except.ok numbers
    | none => .error (.header .invalid)
  let valuesOf := fun key => (given.reverse.filter (·.1 = key)).map (·.2)
  match rs.lookup "GNU.sparse.map" with
  | some list => do
    return { e with pieces? := some (pairs (← all (list.splitOn ","))) }
  | none =>
    if (rs.lookup "GNU.sparse.size").isSome then do
      let places ← all (valuesOf "GNU.sparse.offset")
      let sizes ← all (valuesOf "GNU.sparse.numbytes")
      return { e with pieces? := some (places.zip sizes) }
    else if rs.lookup "GNU.sparse.major" = some "1" && rs.lookup "GNU.sparse.minor" = some "0" then
      withPieceLines t e
    else .ok e

/-- The member whose first header is at a position, and the records that hold from then on for
all members. The bound is one on the number of headers. -/
def entryAt (t : Tape) (shared : Records) : Nat → Nat → Except EntryFault (Entry × Records)
  | 0, _ => .error (.header .invalid)
  | n + 1, position => do
    let block ← (t.read position blockSize).mapError .tape
    let e ← (header block position).mapError .header
    let isRecord := ['x', 'X', 'g'].contains e.kind
    if isRecord || ['L', 'K'].contains e.kind then
      let bytes := (← (t.read e.start (padded e.size)).mapError .tape).toList
      let given ←
        if isRecord then
          match records? (bytes.length + 1) bytes with
          | some rs => .ok rs
          | none => .error (.header .invalid)
        else .ok []
      let shared := if e.kind = 'g' then given ++ shared else shared
      let rs := given ++ shared
      let (next, shared) ← match entryAt t shared n (e.start + padded e.size) with
        | .error (.header f) => .error (.following f)
        | r => r
      let long := text (bytes.takeWhile (· ≠ 0))
      match e.kind with
      | 'L' =>
        let name := if next.isFolder then Text.dropEnding long "/" else long
        return ({ next with name }, shared)
      | 'K' => return ({ next with linkName := long }, shared)
      | 'g' => return (← withRecordedPieces t given shared next, shared)
      | _ =>
        let named := (← withRecordedPieces t given rs next).applying rs
        return (if (rs.lookup "size").isSome then named.withNext else named, shared)
    else if e.kind = 'S' then return (← withListedPieces t block e, shared)
    else return ((e.withNext.applying shared).trimmed, shared)

/-- Why an archive cannot be read on. -/
inductive Fault where
  | header (fault : HeaderFault)
  | emptyFile
  | cutShort
  | notGzip
  | senseless (cause : Senseless)
  | gzip (fault : GzipFault)
  | nothingLinked (name : String)
  deriving Repr, DecidableEq

def Fault.message : Fault → String
  | .header fault => fault.text
  | .emptyFile => "empty file"
  | .cutShort => "unexpected end of data"
  | .notGzip => "not a gzip file"
  | .senseless cause => "zlib error: " ++ cause.message
  | .gzip fault => fault.message
  | .nothingLinked name => Text.escaped ("linkname " ++ Text.escaped name ++ " not found")

/-- What a fault at the header at a position means for the archive; none when it just ends. -/
def faultAt? (position : Nat) : EntryFault → Option Fault
  | .header .zero => none
  | .header f =>
    if position ≠ 0 then none else if f = .empty then some .emptyFile else some (.header f)
  | .following f => some (.header f)
  | .tape (.inflate (.senseless cause)) => some (.senseless cause)
  | .tape (.inflate .cutShort) => some (.gzip (.inflate .cutShort))
  | .tape f => if position = 0 then some .notGzip else some (.gzip f)

/-- The members from a position on, and why there are no more. -/
def entriesFrom (t : Tape) : Nat → Records → Nat → List Entry × Option Fault
  | 0, _, _ => ([], none)
  | n + 1, shared, position =>
    if t.bytes.size < position then ([], some ((t.fault?.map Fault.gzip).getD .cutShort))
    else match entryAt t shared (t.bytes.size / blockSize + 1) position with
      | .error f => ([], faultAt? position f)
      | .ok (e, shared) =>
        let (es, fault?) := entriesFrom t n shared e.next
        (e :: es, fault?)

/-- The members of an archive, and why it cannot be read on behind them. -/
def entries (t : Tape) : List Entry × Option Fault :=
  entriesFrom t (t.bytes.size / blockSize + 2) [] 0

/-- A number of zeros. -/
def zeros (n : Nat) : ByteArray := ⟨Array.replicate n 0⟩

/-- Bytes of which more than a number are cut off and fewer are filled up with zeros. -/
def sized (data : ByteArray) (n : Nat) : ByteArray :=
  if n ≤ data.size then data.extract 0 n else data ++ zeros (n - data.size)

/-- Bytes into which others are put from a place on, behind zeros if there is nothing before it. -/
def put (data : ByteArray) (place : Nat) (piece : ByteArray) : ByteArray :=
  let before := if data.size < place then sized data place else data.extract 0 place
  before ++ piece ++ data.extract (place + piece.size) data.size

/-- The bytes from a position on, all of them. -/
def exactly (t : Tape) (start size : Nat) : Except Fault ByteArray :=
  match t.read start size with
  | .error f => .error (.gzip f)
  | .ok data => if data.size < size then .error .cutShort else .ok data

/-- The bytes of a member. -/
def content (t : Tape) (e : Entry) : Except Fault ByteArray :=
  match e.pieces? with
  | none => exactly t e.start e.size
  | some pieces => do
    let (data, _) ← pieces.foldlM (fun (data, position) (place, size) => do
      return (put data place (← exactly t position size), position + size)) (.empty, e.start)
    return sized data e.size

end OperationClasses.Archive.Tar
