import OperationClasses.Archive.PrefixCode

/-!
# Inflating

Compressed bytes come in blocks. A block is stored as it is, or it is a row of symbols, each of
which is a byte, a copy of earlier output, or the end of the block. Symbols have prefix codes.
The lengths of their words are fixed, or they stand at the beginning of the block in a code of
their own. Bits are read from the lowest of the first byte on.
-/
namespace OperationClasses.Archive

/-- What compressed bytes cannot mean. -/
inductive Senseless where
  | blockKind | storedLength | tooManySymbols | lengthCode | repetition | noEnd
  | symbolCode | distanceCode | symbol | distance | tooFarBack
  deriving Repr, DecidableEq

def Senseless.text : Senseless → String
  | .blockKind => "invalid block type"
  | .storedLength => "invalid stored block lengths"
  | .tooManySymbols => "too many length or distance symbols"
  | .lengthCode => "invalid code lengths set"
  | .repetition => "invalid bit length repeat"
  | .noEnd => "invalid code -- missing end-of-block"
  | .symbolCode => "invalid literal/lengths set"
  | .distanceCode => "invalid distances set"
  | .symbol => "invalid literal/length code"
  | .distance => "invalid distance code"
  | .tooFarBack => "invalid distance too far back"

def Senseless.message (cause : Senseless) : String :=
  "Error -3 while decompressing data: " ++ cause.text

/-- Why bytes cannot be inflated to their end. -/
abbrev InflateFault := UnpackFault Senseless

/-- The codes of a block: of bytes and copy lengths, and of copy distances. -/
structure BlockCodes where
  symbols : PrefixCode
  distances : PrefixCode

namespace Inflate

/-- The longest word of a code. -/
def maxWordLength : Nat := 15

/-- The share of all words of the greatest length that begin with a word of a code, if its words
have given lengths. -/
def wordShare (lengths : List Nat) : Nat :=
  (lengths.map fun l => if l = 0 then 0 else Nat.pow 2 (maxWordLength - l)).foldr (· + ·) 0

/-- Whether there are words of given lengths none of which begins with another one, and whether
every row of bits begins with one of them. -/
def isFullCode (lengths : List Nat) : Bool := wordShare lengths = Nat.pow 2 maxWordLength

/-- Whether words have given lengths in a code that leaves rows of bits without meaning: no word,
or one of a single bit. -/
def isSparseCode (lengths : List Nat) : Bool :=
  lengths.all (· ≤ 1) && lengths.foldr (· + ·) 0 ≤ 1

/-- The codes of a block that gives none. -/
def fixedCodes : BlockCodes where
  symbols := .ofLengths (List.replicate 144 8 ++ List.replicate 112 9 ++ List.replicate 24 7 ++
    List.replicate 8 8)
  distances := .ofLengths (List.replicate 32 5)

/-- The shortest length of each copy symbol, and the number of bits that add to it. -/
def lengthBases : Array (Nat × Nat) :=
  #[(3, 0), (4, 0), (5, 0), (6, 0), (7, 0), (8, 0), (9, 0), (10, 0), (11, 1), (13, 1), (15, 1),
    (17, 1), (19, 2), (23, 2), (27, 2), (31, 2), (35, 3), (43, 3), (51, 3), (59, 3), (67, 4),
    (83, 4), (99, 4), (115, 4), (131, 5), (163, 5), (195, 5), (227, 5), (258, 0)]

/-- The shortest distance of each distance symbol, and the number of bits that add to it. -/
def distanceBases : Array (Nat × Nat) :=
  #[(1, 0), (2, 0), (3, 0), (4, 0), (5, 1), (7, 1), (9, 2), (13, 2), (17, 3), (25, 3), (33, 4),
    (49, 4), (65, 5), (97, 5), (129, 6), (193, 6), (257, 7), (385, 7), (513, 8), (769, 8),
    (1025, 9), (1537, 9), (2049, 10), (3073, 10), (4097, 11), (6145, 11), (8193, 12),
    (12289, 12), (16385, 13), (24577, 13)]

/-- A step of inflating. -/
abbrev Step := BitReader Senseless

/-- Adds whole bytes to the output as they are. -/
def putBytes : Nat → Step Unit
  | 0 => return ()
  | n + 1 => do
    let b ← BitReader.lowBits 8
    BitReader.put (UInt8.ofNat b)
    putBytes n

/-- Repeats output from some distance back, byte by byte, so that a copy may overlap itself. -/
def copyBack (distance : Nat) : Nat → Step Unit
  | 0 => return ()
  | n + 1 => do
    match backByte? (← get).output distance with
    | none => BitReader.reject .tooFarBack
    | some b =>
      BitReader.put b
      copyBack distance n

/-- Reads a word of a code. -/
def symbol? (c : PrefixCode) : Step (Option Nat) := c.symbol? BitReader.lowBit

/-- A number given by a base and further bits; an index without a base has no meaning. -/
def based (bases : Array (Nat × Nat)) (cause : Senseless) (index : Nat) : Step Nat := do
  match bases[index]? with
  | some (base, extra) => return base + (← BitReader.lowBits extra)
  | none => BitReader.reject cause

/-- The symbols of a block up to its end. -/
def symbols (codes : BlockCodes) : Nat → Step Unit
  | 0 => throw .cutShort
  | n + 1 => do
    match ← symbol? codes.symbols with
    | none => BitReader.reject .symbol
    | some s =>
      if s < 256 then
        BitReader.put (UInt8.ofNat s)
        symbols codes n
      else if s = 256 then return ()
      else
        let length ← based lengthBases .symbol (s - 257)
        match ← symbol? codes.distances with
        | none => BitReader.reject .distance
        | some d =>
          copyBack (← based distanceBases .distance d) length
          symbols codes n

/-- The order in which the lengths of the code for lengths are given. -/
def lengthOrder : List Nat := [16, 17, 18, 0, 8, 7, 9, 6, 10, 5, 11, 4, 12, 3, 13, 2, 14, 1, 15]

/-- Lengths of code words, latest first; three symbols repeat the last one or zero. A code
without words gives zero for every bit. -/
def codeLengths (c : PrefixCode) (count : Nat) : Nat → List Nat → Step (List Nat)
  | 0, _ => throw .cutShort
  | n + 1, found => do
    if count < found.length then BitReader.reject .repetition
    else if found.length = count then return found.reverse
    else
      let s := (← symbol? c).getD 0
      if s < 16 then codeLengths c count n (s :: found)
      else if s = 16 then
        let further ← BitReader.lowBits 2
        match found with
        | last :: _ => codeLengths c count n (List.replicate (3 + further) last ++ found)
        | [] => BitReader.reject .repetition
      else if s = 17 then
        codeLengths c count n (List.replicate (3 + (← BitReader.lowBits 3)) 0 ++ found)
      else codeLengths c count n (List.replicate (11 + (← BitReader.lowBits 7)) 0 ++ found)

/-- The greatest numbers of symbols and of distances for which lengths can be given. -/
def maxSymbols : Nat := 286

def maxDistances : Nat := 30

/-- The codes at the beginning of a block. -/
def givenCodes : Step BlockCodes := do
  let symbolCount := 257 + (← BitReader.lowBits 5)
  let distanceCount := 1 + (← BitReader.lowBits 5)
  let lengthCount := 4 + (← BitReader.lowBits 4)
  if maxSymbols < symbolCount || maxDistances < distanceCount then
    BitReader.reject .tooManySymbols
  let given ← (lengthOrder.take lengthCount).mapM fun s => do return (s, ← BitReader.lowBits 3)
  let ofLengths := (List.range 19).map fun s => (given.lookup s).getD 0
  if !isFullCode ofLengths && ofLengths.any (· ≠ 0) then BitReader.reject .lengthCode
  let lengths ←
    codeLengths (.ofLengths ofLengths) (symbolCount + distanceCount) (← BitReader.bound) []
  let symbols := lengths.take symbolCount
  let distances := lengths.drop symbolCount
  if symbols[256]? = some 0 then BitReader.reject .noEnd
  if !isFullCode symbols && !isSparseCode symbols then
    BitReader.reject .symbolCode
  if !isFullCode distances && !isSparseCode distances then
    BitReader.reject .distanceCode
  return ⟨.ofLengths symbols, .ofLengths distances⟩

/-- A block that is stored as it is. -/
def stored : Step Unit := do
  BitReader.align
  let length ← BitReader.lowBits 16
  let check ← BitReader.lowBits 16
  if length + check = 0xffff then putBytes length
  else BitReader.reject .storedLength

/-- Blocks up to the last one. -/
def blocks : Nat → Step Unit
  | 0 => throw .cutShort
  | n + 1 => do
    let isLast ← BitReader.lowBit
    match ← BitReader.lowBits 2 with
    | 0 => stored
    | 1 => symbols fixedCodes (← BitReader.bound)
    | 2 => symbols (← givenCodes) (← BitReader.bound)
    | _ => BitReader.reject .blockKind
    if isLast = 1 then return () else blocks n

end Inflate

/-- Inflates the bytes from a position on. -/
def inflate (data : ByteArray) (start : Nat) : Unpacked Senseless :=
  (Inflate.blocks (8 * data.size + 1)).run data start

end OperationClasses.Archive
