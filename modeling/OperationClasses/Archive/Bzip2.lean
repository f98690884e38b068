import OperationClasses.Archive.PrefixCode

/-!
# Sorted blocks

Bytes come in blocks. The rotations of a block were sorted and only the last byte of each was
kept, so that like bytes meet; they are told by their ranks among the bytes that came last, runs
of the first rank by their lengths in binary digits. These symbols have prefix codes, which
change every fifty symbols. Before all that, four equal bytes were given the number of further
ones. A block carries a checksum of its bytes, and the end one of all checksums. Bits are read
from the highest of the first byte on.
-/
namespace OperationClasses.Archive.Bzip2

/-- A step of unpacking. There is one thing to say of bytes that mean nothing. -/
abbrev Step := BitReader Unit

def reject {α : Type} : Step α := BitReader.reject ()

def bit : Step Nat := BitReader.highBit

def bits (n : Nat) : Step Nat := BitReader.highBits n

/-- Bytes that have to come next. -/
def expect : List Nat → Step Unit
  | [] => return ()
  | b :: rest => do if (← bits 8) = b then expect rest else reject

/-- One bit of the checksum's division. -/
def checksumBit (c : UInt32) : UInt32 :=
  if c &&& 0x80000000 = 0 then c <<< 1 else (c <<< 1) ^^^ 0x04c11db7

/-- The checksum after one more byte. -/
def checksumByte (c : UInt32) (b : UInt8) : UInt32 :=
  Nat.repeat checksumBit 8 (c ^^^ (b.toUInt32 <<< 24))

/-- The cyclic redundancy check of the bytes of a block, the highest bit of a byte first. -/
def checksum (data : ByteArray) : UInt32 :=
  data.foldl checksumByte 0xffffffff ^^^ 0xffffffff

/-- The checksum of blocks after one more of them. -/
def checksumBlock (c block : UInt32) : UInt32 := ((c <<< 1) ||| (c >>> 31)) ^^^ block

/-- The longest word of a code. -/
def maxWordLength : Nat := 20

/-- The length of a word, given by steps from the length of the one before it. The bound is one
on the steps. -/
def wordLength : Nat → Nat → Step Nat
  | 0, _ => throw .cutShort
  | n + 1, l => do
    if l = 0 || maxWordLength < l then reject
    else if (← bit) = 0 then return l
    else if (← bit) = 0 then wordLength n (l + 1)
    else wordLength n (l - 1)

/-- The lengths of a number of words behind one of a given length. -/
def wordLengths : Nat → Nat → Step (List Nat)
  | 0, _ => return []
  | n + 1, l => do
    let l ← wordLength (← BitReader.bound) l
    return l :: (← wordLengths n l)

/-- The code of a number of symbols. That a row of bits is no word is noticed behind the longest
words that can be. -/
def code (symbolCount : Nat) : Step PrefixCode := do
  let lengths ← wordLengths symbolCount (← bits 5)
  return (PrefixCode.ofLengths lengths).upTo (maxWordLength + 1)

/-- A number below a bound, given by as many ones and a zero. -/
def rank : Nat → Step Nat
  | 0 => reject
  | n + 1 => do if (← bit) = 0 then return 0 else return (← rank n) + 1

/-- The element of a rank, and the list in which it is the first. -/
def moveToFront {α : Type} (l : List α) (i : Nat) : Option (α × List α) :=
  l[i]?.map fun x => (x, x :: l.eraseIdx i)

/-- A row of elements that are given by their ranks, each moved to the front. -/
def ranked {α : Type} : Nat → List α → Step (List α)
  | 0, _ => return []
  | n + 1, l => do
    match moveToFront l (← rank l.length) with
    | none => reject
    | some (x, l) => return x :: (← ranked n l)

/-- How many symbols are spelled in one code before the next one is chosen. -/
def groupSize : Nat := 50

/-- The symbol of a number in its block. -/
def symbol (codes : Array PrefixCode) (i : Nat) : Step Nat := do
  match codes[i / groupSize]? with
  | none => reject
  | some c =>
    match ← c.symbol? bit with
    | some s => return s
    | none => reject

/-- The numbers below one that are marked: a bit for every sixteen, and sixteen bits for those of
which it is set. -/
def marked : Step (List Nat) := do
  let groups ← (List.range 16).mapM fun i => do return (i, ← bit)
  let marks ← (groups.filter (·.2 = 1)).mapM fun (i, _) =>
    (List.range 16).mapM fun j => do return (16 * i + j, ← bit)
  return (marks.flatten.filter (·.2 = 1)).map (·.1)

/-- The greatest weight of a binary digit in the length of a run. -/
def maxWeight : Nat := Nat.pow 2 21

/-- The last column of a block: its bytes in the order of the sorted rotations. `run` is the
length of the run at hand so far, and `weight` what its next digit counts. -/
def column (codes : Array PrefixCode) (endSymbol limit : Nat) :
    Nat → Nat → List UInt8 → Nat → Nat → ByteArray → Step ByteArray
  | 0, _, _, _, _, _ => throw .cutShort
  | n + 1, i, ranks, run, weight, out => do
    let s ← symbol codes i
    if s < 2 then
      if maxWeight ≤ weight then reject
      else column codes endSymbol limit n (i + 1) ranks (run + (s + 1) * weight) (2 * weight) out
    else if limit < out.size + run then reject
    else
      let out := Nat.repeat (·.push (ranks.headD 0)) run out
      if s = endSymbol then return out
      else if limit ≤ out.size then reject
      else match moveToFront ranks (s - 1) with
        | none => reject
        | some (b, ranks) =>
          column codes endSymbol limit n (i + 1) ranks 0 1 (out.push b)

/-- The positions of a row of bytes in the order of the bytes; like bytes keep their order. -/
def sortedPositions (column : ByteArray) : Array Nat :=
  let buckets := (column.toList.zipIdx).foldl
    (fun (buckets : Array (Array Nat)) (b, i) => buckets.modify b.toNat (·.push i))
    (Array.replicate 256 #[])
  buckets.flatten

/-- A number of bytes of a column, each followed by the one at the position that its own sorts
to. -/
def follow (column : ByteArray) (next : Array Nat) : Nat → Nat → List UInt8
  | 0, _ => []
  | n + 1, i => (column[i]?.getD 0) :: follow column next n (next[i]?.getD 0)

/-- The bytes of a block with the number of its rotation that was not rotated. -/
def unsorted (column : ByteArray) (origin : Nat) : List UInt8 :=
  let next := sortedPositions column
  follow column next column.size (next[origin]?.getD 0)

/-- Adds bytes to the output. Four equal ones are followed by the number of further ones; `count`
of them have just been added. -/
def putRuns (last? : Option UInt8) (count : Nat) : List UInt8 → Step Unit
  | [] => return ()
  | b :: rest => do
    BitReader.put b
    let count := if last? = some b then count + 1 else 1
    if count < 4 then putRuns (some b) count rest
    else match rest with
      | [] => reject
      | further :: rest =>
        (List.replicate further.toNat b).forM BitReader.put
        putRuns none 0 rest

/-- A block of at most some bytes, whose checksum it begins with. Blocks that were shuffled
beforehand are not read. -/
def block (limit : Nat) : Step UInt32 := do
  let stated ← bits 32
  if (← bit) = 1 then reject
  let origin ← bits 24
  if 10 + limit < origin then reject
  let used ← marked
  if used.isEmpty then reject
  let codeCount ← bits 3
  if codeCount < 2 || 6 < codeCount then reject
  let groupCount ← bits 15
  if groupCount = 0 then reject
  let choices ← ranked groupCount (List.range codeCount)
  let codes ← (List.range codeCount).mapM fun _ => code (used.length + 2)
  let codes := (choices.filterMap (codes[·]?)).toArray
  let column ← column codes (used.length + 1) limit (← BitReader.bound) 0
    (used.map (UInt8.ofNat ·)) 0 1 .empty
  if column.size ≤ origin then reject
  let before := (← get).output.size
  putRuns none 0 (unsorted column origin)
  let output := (← get).output
  let found := checksum (output.extract before output.size)
  if found.toNat ≠ stated then reject
  return found

/-- Blocks up to the mark of the end and the checksum of all. -/
def blocks (limit : Nat) : Nat → UInt32 → Step Unit
  | 0, _ => throw .cutShort
  | n + 1, sum => do
    match ← bits 8 with
    | 0x31 =>
      expect [0x41, 0x59, 0x26, 0x53, 0x59]
      blocks limit n (checksumBlock sum (← block limit))
    | 0x17 =>
      expect [0x72, 0x45, 0x38, 0x50, 0x90]
      if (← bits 32) ≠ sum.toNat then reject
    | _ => reject

/-- All of a stream; its fourth byte tells how long blocks can be. -/
def stream : Step Unit := do
  expect [0x42, 0x5a, 0x68]
  let level ← bits 8
  if level < 0x31 || 0x39 < level then reject
  blocks (100000 * (level - 0x30)) (← BitReader.bound) 0

/-- Unpacks the bytes of a stream. -/
def unpack (data : ByteArray) : Unpacked Unit := stream.run data 0

end OperationClasses.Archive.Bzip2
