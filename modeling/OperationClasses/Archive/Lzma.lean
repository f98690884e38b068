import OperationClasses.Archive.Unpacking
import Std.Data.HashMap

/-!
# Range-coded bytes

The output is told by choices between two ways on: whether a byte is new or copied, which bits it
has, how far back a copy begins and how long it is. A choice cuts a range of numbers in two by the
chance that it will be zero, and a number that was packed tells the part in which it lies. Chances
are learnt from the choices made before in the same place.
-/
namespace OperationClasses.Archive.Lzma

/-- How bytes are packed: how many bits of the byte before and of the position tell one place of a
new byte from another, how many bits of the position one of a copy, and how far back copies can
begin. -/
structure Settings where
  byteBits : Nat
  bytePlaceBits : Nat
  placeBits : Nat
  window : Nat
  deriving Repr, DecidableEq

/-- The settings that five bytes stand for; some stand for none. -/
def Settings.ofBytes? (data : ByteArray) : Option Settings := do
  if data.size ≠ 5 then none
  let first ← data[0]?
  let window ← little? data 1 4
  let n := first.toNat
  let s : Settings := ⟨n % 9, n / 9 % 5, n / 45, window⟩
  if 4 < s.placeBits || 4 < s.byteBits + s.bytePlaceBits then none else some s

/-- Whether the distance of a copy is new or one of those of the latest copies. -/
inductive Distance where
  | fresh | again
  deriving Repr, DecidableEq, Hashable

/-- A choice between two ways on. What was copied or new of late is told by a state, and numbers
are chosen bit by bit, the bits so far being told behind a one. -/
inductive Choice where
  | isCopy (state place : Nat)
  | isAgain (state : Nat)
  | isOlder (rank state : Nat)
  | isLong (state place : Nat)
  | lengthClass (d : Distance) (rank : Nat)
  | shortLength (d : Distance) (place bits : Nat)
  | middleLength (d : Distance) (place bits : Nat)
  | longLength (d : Distance) (bits : Nat)
  | distanceClass (length bits : Nat)
  | nearDistance (distanceClass bits : Nat)
  | lastBits (bits : Nat)
  | newByte (context bits : Nat)
  deriving Repr, DecidableEq, Hashable

/-- What has been read and learnt, and the output so far. -/
structure State where
  position : Nat
  range : UInt32
  code : UInt32
  /-- Chances out of 2048 that a choice is zero. -/
  chances : Std.HashMap Choice UInt32
  output : ByteArray

/-- A step of unpacking. There is one thing to say of bytes that mean nothing. -/
abbrev Step := ReaderT ByteArray (ExceptT (UnpackFault Unit) (StateM State))

def reject {α : Type} : Step α := throw (.senseless ())

def byte : Step UInt8 := do
  match (← read)[(← get).position]? with
  | none => throw .cutShort
  | some b =>
    modify fun s => { s with position := s.position + 1 }
    return b

/-- Widens the range by a byte when it has become narrow. -/
def widen : Step Unit := do
  if (← get).range < 0x1000000 then
    let b ← byte
    modify fun s => { s with range := s.range <<< 8, code := (s.code <<< 8) ||| b.toUInt32 }

/-- The chance of a choice that was never made. -/
def evenChance : UInt32 := 1024

/-- The outcome of a choice, and what is left behind it. -/
def State.choose (s : State) (c : Choice) : Nat × State :=
  let chance : UInt32 := s.chances.getD c evenChance
  let bound : UInt32 := (s.range >>> 11) * chance
  if s.code < bound then
    let learnt := chance + ((2048 - chance) >>> 5)
    (0, { s with range := bound, chances := s.chances.insert c learnt })
  else
    let learnt := chance - (chance >>> 5)
    (1, { s with
      range := s.range - bound
      code := s.code - bound
      chances := s.chances.insert c learnt })

/-- Makes a choice. -/
def choose (c : Choice) : Step Nat := do
  widen
  modifyGet fun s => s.choose c

/-- A bit of even chance, and what is left behind it. -/
def State.evenBit (s : State) : Nat × State :=
  let range : UInt32 := s.range >>> 1
  let code : UInt32 := s.code - range
  if code >>> 31 = 0 then (1, { s with range, code }) else (0, { s with range })

/-- A number of bits of even chance that are not learnt, behind higher ones. -/
def evenBits : Nat → Nat → Step Nat
  | higher, 0 => return higher
  | higher, n + 1 => do
    widen
    let bit ← modifyGet State.evenBit
    evenBits (2 * higher + bit) n

/-- A number of bits, the highest first, behind higher ones. -/
def bitsFrom (choice : Nat → Choice) : Nat → Nat → Step Nat
  | higher, 0 => return higher
  | higher, n + 1 => do bitsFrom choice (2 * higher + (← choose (choice higher))) n

/-- A number of bits as a number, the highest first. -/
def highBits (choice : Nat → Choice) (n : Nat) : Step Nat := do
  return (← bitsFrom choice 1 n) - Nat.pow 2 n

/-- A number of bits as a number, the lowest first. -/
def lowBitsFrom (choice : Nat → Choice) : Nat → Nat → Step Nat
  | _, 0 => return 0
  | before, n + 1 => do
    let b ← choose (choice before)
    return b + 2 * (← lowBitsFrom choice (2 * before + b) n)

def lowBits (choice : Nat → Choice) (n : Nat) : Step Nat := lowBitsFrom choice 1 n

/-- The bits of a byte that is likely to differ from a given one: as long as they agree, the bit
of the other one tells places apart. -/
def bitsBeside (context other : Nat) : Nat → Nat → Bool → Step Nat
  | higher, 0, _ => return higher
  | higher, n + 1, agree => do
    let expected := other / Nat.pow 2 n % 2
    let place := if agree then 0x100 + 0x100 * expected + higher else higher
    let b ← choose (.newByte context place)
    bitsBeside context other (2 * higher + b) n (agree && b = expected)

/-- The byte some distance back from the next one; none of that distance is zero. -/
def back (distance : Nat) : Step Nat := do
  return ((backByte? (← get).output (distance + 1)).getD 0).toNat

/-- A new byte. Directly behind a copy it is likely to differ from the byte that the copy would
have gone on with. -/
def newByte (t : Settings) (state distance : Nat) : Step Unit := do
  let size := (← get).output.size
  let place := size % Nat.pow 2 t.bytePlaceBits
  let context := place * Nat.pow 2 t.byteBits + (← back 0) / Nat.pow 2 (8 - t.byteBits)
  let b ←
    if state < 7 then bitsFrom (.newByte context) 1 8
    else bitsBeside context (← back distance) 1 8 true
  modify fun s => { s with output := s.output.push (UInt8.ofNat b) }

/-- Repeats output from some distance back, byte by byte, so that a copy may overlap itself. -/
def copyBack (distance : Nat) : Nat → Step Unit
  | 0 => return ()
  | n + 1 => do
    let b ← back distance
    modify fun s => { s with output := s.output.push (UInt8.ofNat b) }
    copyBack distance n

/-- By how much a copy is longer than the shortest one. -/
def length (d : Distance) (place : Nat) : Step Nat := do
  if (← choose (.lengthClass d 0)) = 0 then highBits (.shortLength d place) 3
  else if (← choose (.lengthClass d 1)) = 0 then return 8 + (← highBits (.middleLength d place) 3)
  else return 16 + (← highBits (.longLength d) 8)

/-- By how much a copy begins further back than at the byte before. The class of a distance tells
its two highest bits and how many there are. -/
def distance (length : Nat) : Step Nat := do
  let c ← highBits (.distanceClass (min length 3)) 6
  if c < 4 then return c
  else
    let n := c / 2 - 1
    let base := (2 + c % 2) * Nat.pow 2 n
    if c < 14 then return base + (← lowBits (.nearDistance c) n)
    else return base + 16 * (← evenBits 0 (n - 4)) + (← lowBits .lastBits 4)

/-- Which of the latest distances it is. -/
def older (state : Nat) : Step Nat := do
  if (← choose (.isOlder 0 state)) = 0 then return 0
  else if (← choose (.isOlder 1 state)) = 0 then return 1
  else return 2 + (← choose (.isOlder 2 state))

/-- The distance that ends the bytes. -/
def endDistance : Nat := Nat.pow 2 32 - 1

/-- How far back a copy can begin: the window has at least some size, and is made up of sixteens. -/
def reach (t : Settings) : Nat := (max 4096 t.window + 15) / 16 * 16

/-- Bytes and copies up to the end. The state counts up to copies of kinds; `latest` are the
distances of the latest copies. -/
def symbols (t : Settings) : Nat → Nat → List Nat → Step Unit
  | 0, _, _ => throw .cutShort
  | n + 1, state, latest => do
    let size := (← get).output.size
    let place := size % Nat.pow 2 t.placeBits
    if (← choose (.isCopy state place)) = 0 then
      newByte t state (latest.headD 0)
      symbols t n (if state < 4 then 0 else if state < 10 then state - 3 else state - 6) latest
    else if (← choose (.isAgain state)) = 0 then
      let more ← length .fresh place
      let d ← distance more
      if d = endDistance then
        widen
        if (← get).code ≠ 0 then reject
      else if min size (reach t) ≤ d then reject
      else
        copyBack d (2 + more)
        symbols t n (if state < 7 then 7 else 10) (d :: latest.take 3)
    else if size = 0 then reject
    else
      let rank ← older state
      let d := latest.getD rank 0
      let latest := d :: latest.eraseIdx rank
      let isLong ← if rank = 0 then choose (.isLong state place) else pure 1
      if isLong = 0 then
        copyBack d 1
        symbols t n (if state < 7 then 9 else 11) latest
      else
        copyBack d (2 + (← length .again place))
        symbols t n (if state < 7 then 8 else 11) latest

/-- Reads the number that tells the choices, and makes them. A choice takes at least one part in
forty-six of a bit. -/
def stream (t : Settings) : Step Unit := do
  if (← byte) ≠ 0 then reject
  for _ in [0, 1, 2, 3] do
    let b ← byte
    modify fun s => { s with code := (s.code <<< 8) ||| b.toUInt32 }
  symbols t (46 * 8 * ((← read).size + 8)) 0 [0, 0, 0, 0]

/-- Unpacks bytes. -/
def unpack (t : Settings) (data : ByteArray) : Unpacked Unit :=
  let (result, s) := ((stream t).run data).run ⟨0, 0xffffffff, 0, ∅, .empty⟩
  ⟨s.output, result.map fun _ => s.position⟩

end OperationClasses.Archive.Lzma
