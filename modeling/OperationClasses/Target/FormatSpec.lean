import OperationClasses.Target.FormatFault
import OperationClasses.Text.Digit

/-!
# Layout specifications

What may stand behind the colon of a field: a character to fill with and an alignment, a sign, a
width, separators, a greatest length, and the code of a layout. Texts have fills, alignments,
widths and lengths; all else is refused, each with a fault of its own.
-/
namespace OperationClasses

/-- Where a text stands within its width. The fourth alignment puts the fill behind a sign. -/
inductive Alignment where
  | left | right | center | behindSign
  deriving Repr, DecidableEq

def Alignment.ofChar? : Char → Option Alignment
  | '<' => some .left
  | '>' => some .right
  | '^' => some .center
  | '=' => some .behindSign
  | _ => none

/-- A layout specification. -/
structure FormatSpec where
  fill : Char := ' '
  alignment : Alignment := .left
  sign? : Option Char := none
  coercesZero : Bool := false
  isAlternate : Bool := false
  width? : Option Nat := none
  precision? : Option Nat := none
  code : Char := 's'
  deriving Repr, DecidableEq

namespace FormatSpec

/-- The largest number that a format can hold. -/
def numberLimit : Nat := Nat.pow 2 63 - 1

/-- A number at the beginning of a text, if there is one, and the rest. -/
def number? (s : List Char) : Except FormatFault (Option Nat × List Char) :=
  let digits := s.takeWhile Text.isDigit
  if digits.isEmpty then .ok (none, s)
  else if numberLimit < Text.digitsValue digits then .error .tooManyDigits
  else .ok (some (Text.digitsValue digits), s.drop digits.length)

/-- Fill and alignment at the beginning of a specification, and whether a fill is given. -/
def readAlignment (s : List Char) : FormatSpec × Bool × List Char :=
  let lone : FormatSpec × Bool × List Char :=
    match s with
    | [] => ({}, false, [])
    | c :: rest =>
      match Alignment.ofChar? c with
      | some a => ({ alignment := a }, false, rest)
      | none => ({}, false, s)
  match s with
  | fill :: c :: rest =>
    match Alignment.ofChar? c with
    | some a => ({ fill, alignment := a }, true, rest)
    | none => lone
  | _ => lone

/-- The rest of a text behind a character, if it begins with that character. -/
def behind? (c : Char) : List Char → Option (List Char)
  | [] => none
  | d :: rest => if c = d then some rest else none

/-- The separator of thousands, and the rest. -/
def readSeparator (s : List Char) : Except FormatFault (Option Char × List Char) :=
  let (comma?, s) := match behind? ',' s with
    | some rest => (some ',', rest)
    | none => (none, s)
  match behind? '_' s with
  | none => .ok (comma?, s)
  | some rest =>
    if comma?.isSome || (behind? ',' rest).isSome then .error .bothSeparators
    else .ok (some '_', rest)

/-- The codes of numbers that take a separator. -/
def takesSeparator (separator code : Char) : Bool :=
  ['d', 'e', 'f', 'g', 'E', 'G', '%', 'F'].contains code ||
    (separator = '_' && ['b', 'o', 'x', 'X'].contains code)

/-- The greatest length behind a point. -/
def readPrecision (s : List Char) : Except FormatFault (Option Nat × List Char) :=
  match behind? '.' s with
  | none => .ok (none, s)
  | some rest => do
    match ← number? rest with
    | (none, _) => .error .missingPrecision
    | found => return found

/-- Reads a specification. -/
def read (spec : List Char) : Except FormatFault FormatSpec := do
  let (f, isFilled, s) := readAlignment spec
  let (sign?, s) := match s with
    | c :: rest => if c = ' ' || c = '+' || c = '-' then (some c, rest) else (none, s)
    | [] => (none, s)
  let (coercesZero, s) := match behind? 'z' s with
    | some rest => (true, rest)
    | none => (false, s)
  let (isAlternate, s) := match behind? '#' s with
    | some rest => (true, rest)
    | none => (false, s)
  let (fill, s) := match behind? '0' s with
    | some rest => if isFilled then (f.fill, s) else ('0', rest)
    | none => (f.fill, s)
  let (width?, s) ← number? s
  let (separator?, s) ← readSeparator s
  let (precision?, s) ← readPrecision s
  let code ← match s with
    | [] => pure 's'
    | [c] => pure c
    | _ => throw (.invalidSpec (String.ofList spec))
  match separator? with
  | some separator => if !takesSeparator separator code then throw (.separatorWith separator code)
  | none => pure ()
  return { f with fill, sign?, coercesZero, isAlternate, width?, precision?, code }

/-- The longest text that is written. -/
def lengthLimit : Nat := Nat.pow 2 30

/-- A text with as much fill before and after it as it lacks to the width. -/
def pad (f : FormatSpec) (s : List Char) : List Char :=
  let missing := f.width?.getD 0 - s.length
  match f.alignment with
  | .left | .behindSign => s ++ List.replicate missing f.fill
  | .right => List.replicate missing f.fill ++ s
  | .center =>
    List.replicate (missing / 2) f.fill ++ s ++ List.replicate (missing - missing / 2) f.fill

/-- Lays a text out. -/
def apply (f : FormatSpec) (s : List Char) : Except FormatFault (List Char) := do
  if f.code ≠ 's' then throw (.unknownCode f.code)
  match f.sign? with
  | some ' ' => throw .spaceInSpec
  | some _ => throw .signInSpec
  | none => pure ()
  if f.coercesZero then throw .zeroInSpec
  if f.isAlternate then throw .alternateInSpec
  if f.alignment = .behindSign then throw .paddedSignInSpec
  if lengthLimit < f.width?.getD 0 then throw .outOfMemory
  return f.pad (match f.precision? with
    | some n => s.take n
    | none => s)

/-- Lays a text out as a specification says; an empty one leaves it as it is. -/
def layOut (spec s : List Char) : Except FormatFault (List Char) :=
  match spec with
  | [] => .ok s
  | spec => do (← read spec).apply s

end FormatSpec

end OperationClasses
