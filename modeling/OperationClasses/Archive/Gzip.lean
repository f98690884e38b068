import OperationClasses.Archive.Inflate
import OperationClasses.Text.Quoted

/-!
# Gzip files

Compressed bytes between a header with optional parts and a checksum with the length of what
they stand for, any number of times, with zeros between. What is before a fault can be read.
-/
namespace OperationClasses.Archive

/-- Why a gzip file cannot be read on. -/
inductive GzipFault where
  | mark (found : List UInt8)
  | method
  | checksum (stated found : Nat)
  | length
  | inflate (fault : InflateFault)
  deriving Repr, DecidableEq

def GzipFault.message : GzipFault → String
  | .mark found => "Not a gzipped file (" ++ Text.escapedBytes found ++ ")"
  | .method => "Unknown compression method"
  | .checksum stated found => "CRC check failed " ++ Text.hexText stated ++ " != " ++ Text.hexText found
  | .length => "Incorrect length of data produced"
  | .inflate .cutShort => "Compressed file ended before the end-of-stream marker was reached"
  | .inflate (.senseless cause) => cause.message

/-- Bytes that can be read, and what keeps one from reading on. -/
structure Tape where
  bytes : ByteArray
  fault? : Option GzipFault

namespace Gzip

/-- The first bytes of a gzip file. -/
def mark : List UInt8 := [0x1f, 0x8b]

/-- How many bytes are inflated at a time; a fault among them makes all of them unreadable. -/
def stepSize : Nat := 8192

/-- The position behind a text that a zero or the end of the bytes ends. -/
def skipText (data : ByteArray) : Nat → Nat → Nat
  | 0, i => i
  | n + 1, i =>
    match data[i]? with
    | none => i
    | some b => if b = 0 then i + 1 else skipText data n (i + 1)

/-- Whether an optional part is there. -/
def hasPart (flags : UInt8) (part : UInt8) : Bool := flags &&& part ≠ 0

/-- A value without which a file is cut short. -/
def need {α : Type} : Option α → Except GzipFault α
  | some x => .ok x
  | none => .error (.inflate .cutShort)

/-- A position, unless the bytes end before it. -/
def reach (data : ByteArray) (i : Nat) : Except GzipFault Nat :=
  if i ≤ data.size then .ok i else .error (.inflate .cutShort)

/-- The position behind the header at a position; none at the end of the bytes. -/
def headerEnd (data : ByteArray) (start : Nat) : Except GzipFault (Option Nat) := do
  let found := (data.extract start (start + 2)).toList
  if found = [] then return none
  if found ≠ mark then throw (.mark found)
  let i ← reach data (start + 10)
  let method ← need data[start + 2]?
  let flags ← need data[start + 3]?
  if method ≠ 8 then throw .method
  let i ← if hasPart flags 4 then do reach data (i + 2 + (← need (little? data i 2))) else pure i
  let i := if hasPart flags 8 then skipText data data.size i else i
  let i := if hasPart flags 16 then skipText data data.size i else i
  some <$> if hasPart flags 2 then reach data (i + 2) else pure i

/-- The position behind the checksum and length at a position and behind the zeros that follow;
both have to be those of the bytes that were inflated. -/
def trailerEnd (data : ByteArray) (stop : Nat) (output : ByteArray) : Except GzipFault Nat := do
  let stated ← need (little? data stop 4)
  let length ← need (little? data (stop + 4) 4)
  let found := (checksum output).toNat
  if stated ≠ found then throw (.checksum stated found)
  if length ≠ output.size % Nat.pow 2 32 then throw .length
  let behind := (data.extract (stop + 8) data.size).toList
  return stop + 8 + (behind.takeWhile (· = 0)).length

/-- The bytes from a position on, behind those that were read before. -/
def tapeFrom (data : ByteArray) : Nat → Nat → ByteArray → Tape
  | 0, _, before => ⟨before, none⟩
  | n + 1, start, before =>
    match headerEnd data start with
    | .error f => ⟨before, some f⟩
    | .ok none => ⟨before, none⟩
    | .ok (some i) =>
      let inflated := inflate data i
      let output := inflated.output
      match inflated.stop with
      | .error (.senseless cause) =>
        let whole := output.size / stepSize * stepSize
        ⟨before ++ output.extract 0 whole, some (.inflate (.senseless cause))⟩
      | .error .cutShort => ⟨before ++ output, some (.inflate .cutShort)⟩
      | .ok stop =>
        match trailerEnd data stop output with
        | .error f => ⟨before ++ output, some f⟩
        | .ok next => tapeFrom data n next (before ++ output)

/-- The bytes that a file holds. -/
def tape (data : ByteArray) : Tape := tapeFrom data (data.size + 1) 0 .empty

end Gzip

namespace Tape

/-- The bytes from a position on, fewer at the end. -/
def read (t : Tape) (start length : Nat) : Except GzipFault ByteArray :=
  match t.fault? with
  | some f =>
    if start + length ≤ t.bytes.size then .ok (slice t.bytes start (start + length)) else .error f
  | none => .ok (slice t.bytes start (start + length))

end Tape

end OperationClasses.Archive
