import OperationClasses.Text.Hex

/-!
# Decoding UTF-8

Bytes as text. Overlong forms, surrogates and code points beyond the last one are no characters.
The first bytes that begin no character are reported with their position, as many of them as
could have begun one.
-/
namespace OperationClasses.Text

/-- Why bytes begin no character. -/
inductive Utf8Reason where
  | invalidStart | invalidContinuation | unexpectedEnd
  deriving Repr, DecidableEq

def Utf8Reason.text : Utf8Reason → String
  | .invalidStart => "invalid start byte"
  | .invalidContinuation => "invalid continuation byte"
  | .unexpectedEnd => "unexpected end of data"

/-- Bytes that begin no character: the first of them, their number and where they stand. -/
structure Utf8Fault where
  reason : Utf8Reason
  first : UInt8
  length : Nat
  position : Nat
  deriving Repr, DecidableEq

def Utf8Fault.message (f : Utf8Fault) : String :=
  "'utf-8' codec can't decode " ++
    (if f.length ≤ 1 then
      "byte 0x" ++ String.ofList (hexFixed false 2 f.first.toNat) ++ " in position " ++
        toString f.position
    else
      "bytes in position " ++ toString f.position ++ "-" ++ toString (f.position + f.length - 1)) ++
    ": " ++ f.reason.text

namespace Utf8

/-- Reads bytes that continue a character, each inside its range. The value so far is shifted by
six bits for each; `count` is the number of bytes read. -/
def continuations (value count : Nat) :
    List (UInt8 × UInt8) → List UInt8 → Except (Utf8Reason × Nat) Nat
  | [], _ => .ok value
  | _ :: _, [] => .error (.unexpectedEnd, count)
  | (low, high) :: ranges, b :: rest =>
    if low ≤ b ∧ b ≤ high then
      continuations (64 * value + b.toNat % 64) (count + 1) ranges rest
    else .error (.invalidContinuation, count)

/-- The bits that a first byte contributes and the ranges of the bytes that have to follow it. -/
def shape? (b : UInt8) : Option (Nat × List (UInt8 × UInt8)) :=
  let any : UInt8 × UInt8 := (0x80, 0xbf)
  if b < 0x80 then some (b.toNat, [])
  else if b < 0xc2 then none
  else if b < 0xe0 then some (b.toNat % 32, [any])
  else if b = 0xe0 then some (0, [(0xa0, 0xbf), any])
  else if b = 0xed then some (13, [(0x80, 0x9f), any])
  else if b < 0xf0 then some (b.toNat % 16, [any, any])
  else if b = 0xf0 then some (0, [(0x90, 0xbf), any, any])
  else if b < 0xf4 then some (b.toNat % 8, [any, any, any])
  else if b = 0xf4 then some (4, [(0x80, 0x8f), any, any])
  else none

/-- The characters of bytes that begin at a given position. -/
def decodeFrom (position : Nat) : List UInt8 → Except Utf8Fault (List Char)
  | [] => .ok []
  | b :: rest =>
    match shape? b with
    | none => .error ⟨.invalidStart, b, 1, position⟩
    | some (bits, ranges) =>
      match continuations bits 1 ranges rest with
      | .error (reason, length) => .error ⟨reason, b, length, position⟩
      | .ok n =>
        (decodeFrom (position + 1 + ranges.length) (rest.drop ranges.length)).map (Char.ofNat n :: ·)
termination_by bytes => bytes.length
decreasing_by simp only [List.length_drop, List.length_cons]; omega

/-- The text that bytes spell. -/
def decode (data : ByteArray) : Except Utf8Fault String :=
  (decodeFrom 0 data.toList).map String.ofList

end Utf8

end OperationClasses.Text
