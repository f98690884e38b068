/-!
# Reading bytes

Numbers inside byte arrays, parts of them, and the checksum by which archives notice
damage.
-/
namespace OperationClasses.Archive

/-- The number that consecutive bytes spell, the lowest first; none beyond the end. -/
def little? (data : ByteArray) (start : Nat) : Nat → Option Nat
  | 0 => some 0
  | width + 1 => do
    let high ← little? data (start + 1) width
    let low ← data[start]?
    return high * 256 + low.toNat

/-- The bytes between two positions, as many of them as there are. -/
def slice (data : ByteArray) (start stop : Nat) : ByteArray :=
  data.extract (min start data.size) (min stop data.size)

/-- One bit of the checksum's division. -/
def checksumBit (c : UInt32) : UInt32 :=
  if c &&& 1 = 1 then (c >>> 1) ^^^ 0xedb88320 else c >>> 1

/-- The checksum after one more byte. -/
def checksumByte (c : UInt32) (b : UInt8) : UInt32 :=
  Nat.repeat checksumBit 8 (c ^^^ b.toUInt32)

/-- The cyclic redundancy check of bytes. -/
def checksum (data : ByteArray) : UInt32 :=
  data.foldl checksumByte 0xffffffff ^^^ 0xffffffff

end OperationClasses.Archive
