import OperationClasses.Archive.Bytes

/-!
# Unpacking

Packed bytes are read bit by bit or byte by byte, and what they stand for is added to an output,
which is kept when a step fails. A step fails when the bytes end or when they cannot mean
anything.
-/
namespace OperationClasses.Archive

/-- Why packed bytes cannot be unpacked to their end. -/
inductive UnpackFault (ε : Type) where
  | cutShort
  | senseless (cause : ε)
  deriving Repr, DecidableEq

/-- What packed bytes stand for, and where they end or why they have no end. -/
structure Unpacked (ε : Type) where
  output : ByteArray
  stop : Except (UnpackFault ε) Nat

/-- How far bits have been read, and the output so far. -/
structure BitState where
  position : Nat
  output : ByteArray

/-- A step that reads bits of a byte array and adds to the output. -/
abbrev BitReader (ε : Type) := ReaderT ByteArray (ExceptT (UnpackFault ε) (StateM BitState))

namespace BitReader

variable {ε : Type}

def reject {α : Type} (cause : ε) : BitReader ε α := throw (.senseless cause)

/-- The next bit, if the bits of each byte come in an order given by the number of the bit in its
byte. -/
def bitAt (place : Nat → Nat) : BitReader ε Nat := do
  let position := (← get).position
  match (← read)[position / 8]? with
  | none => throw .cutShort
  | some b =>
    modify fun s => { s with position := position + 1 }
    return (b.toNat >>> place (position % 8)) % 2

/-- The next bit, the lowest of a byte first. -/
def lowBit : BitReader ε Nat := bitAt id

/-- The next bit, the highest of a byte first. -/
def highBit : BitReader ε Nat := bitAt (7 - ·)

/-- A number of bits as a number, the lowest first. -/
def lowBits : Nat → BitReader ε Nat
  | 0 => return 0
  | n + 1 => do
    let low ← lowBit
    return low + 2 * (← lowBits n)

/-- A number of bits as a number, the highest first, behind higher ones. -/
def highBitsFrom : Nat → Nat → BitReader ε Nat
  | higher, 0 => return higher
  | higher, n + 1 => do highBitsFrom (2 * higher + (← highBit)) n

/-- A number of bits as a number, the highest first. -/
def highBits : Nat → BitReader ε Nat := highBitsFrom 0

/-- Goes on at the next byte that has not been begun. -/
def align : BitReader ε Unit :=
  modify fun s => { s with position := (s.position + 7) / 8 * 8 }

/-- Adds a byte to the output. -/
def put (b : UInt8) : BitReader ε Unit :=
  modify fun s => { s with output := s.output.push b }

/-- A bound for every loop that reads a bit in each round. -/
def bound : BitReader ε Nat := do return 8 * (← read).size + 1

/-- Reads from a position on. -/
def run (r : BitReader ε Unit) (data : ByteArray) (start : Nat) : Unpacked ε :=
  let (result, s) := (ReaderT.run r data).run ⟨8 * start, .empty⟩
  ⟨s.output, result.map fun _ => (s.position + 7) / 8⟩

end BitReader

/-- The byte of an output that is some distance back from its end. -/
def backByte? (output : ByteArray) (distance : Nat) : Option UInt8 :=
  if output.size < distance then none else output[output.size - distance]?

end OperationClasses.Archive
