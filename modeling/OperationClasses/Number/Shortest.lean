import OperationClasses.Number.Binary

/-!
# Shortest numerals

A binary number is written with the fewest decimal digits that read back as the same number. The
numerals that read back lie between the middles to both neighbours. For one digit, two digits and
so on, the two decimal numbers around the binary one are tried; the first length at which one of
them reads back wins, and of two the nearer one.
-/
namespace OperationClasses.Number

/-- The place of the leading decimal digit of a positive quotient below one: the number of zeros
behind the point, the one before it included. The fuel exceeds it. -/
def leadingZeros (n d : Nat) : Nat → Nat
  | 0 => 0
  | fuel + 1 => if d ≤ n then 0 else 1 + leadingZeros (10 * n) d fuel

/-- The decimal exponent of the leading digit of a positive quotient. -/
def leadingPlace (n d : Nat) : Int :=
  if d ≤ n then (width (n / d) : Int) - 1 else -(leadingZeros n d 400 : Int)

/-- A positive binary number with the bounds between which numerals read back as it. Value and
bounds are multiples of a quarter of its last place, which is `unit / parts`. -/
structure Span where
  value : Nat
  lower : Nat
  upper : Nat
  isClosed : Bool
  unit : Nat
  parts : Nat

def spanOf (mantissa : Nat) (exponent : Int) : Span :=
  let (unit, parts) := timesPowerOfTwo 1 4 exponent
  let isSparse := mantissa = Nat.pow 2 52 && exponent > leastExponent
  { value := 4 * mantissa
    lower := if isSparse then 4 * mantissa - 1 else 4 * mantissa - 2
    upper := 4 * mantissa + 2
    isClosed := mantissa % 2 = 0
    unit, parts }

/-- A whole number times a power of ten, in quarters of the last place, with a denominator. -/
def Span.scaled (s : Span) (c : Nat) (place : Int) : Nat × Nat :=
  if place < 0 then (c * s.parts, s.unit * Nat.pow 10 place.natAbs)
  else (c * Nat.pow 10 place.natAbs * s.parts, s.unit)

/-- Whether a whole number times a power of ten reads back. -/
def Span.holds (s : Span) (c : Nat) (place : Int) : Bool :=
  let (n, d) := s.scaled c place
  if s.isClosed then s.lower * d ≤ n && n ≤ s.upper * d
  else s.lower * d < n && n < s.upper * d

/-- The digits that read back at a place, if there are such. -/
def Span.digitsAt? (s : Span) (place : Int) : Option Nat :=
  let (n, d) := s.scaled 1 place
  let below := s.value * d / n
  let rest := s.value * d % n
  match s.holds below place, s.holds (below + 1) place with
  | true, true =>
    some (if 2 * rest < n || (2 * rest = n && below % 2 = 0) then below else below + 1)
  | true, false => some below
  | false, true => some (below + 1)
  | false, false => none

/-- A number as decimal digits and the place of the last one. Zeros at the end are dropped. -/
def stripZeros : Nat → Nat → Int → Nat × Int
  | 0, c, place => (c, place)
  | fuel + 1, c, place =>
    if c % 10 = 0 && c ≠ 0 then stripZeros fuel (c / 10) (place + 1) else (c, place)

/-- The shortest digits that read back, with the place of the last one. Seventeen are always
enough. -/
def shortest (mantissa : Nat) (exponent : Int) : Nat × Int :=
  let s := spanOf mantissa exponent
  let top := leadingPlace (s.value * s.unit) s.parts
  match (List.range 17).findSome? fun (i : Nat) =>
      (s.digitsAt? (top - (i : Int))).map fun c => (c, top - (i : Int)) with
  | some (c, place) => stripZeros 400 c place
  | none => (mantissa, 0)

def zeros (n : Nat) : List Char := List.replicate n '0'

/-- An exponent with its sign and at least two digits. -/
def exponentText (e : Int) : List Char :=
  let digits := Nat.toDigits 10 e.natAbs
  (if e < 0 then '-' else '+') :: (zeros (2 - digits.length) ++ digits)

/-- Digits with a point or an exponent: from the fourth place behind the point to the sixteenth
before it without an exponent. A whole number keeps one zero behind the point. -/
def layOut (digits : Nat) (place : Int) : List Char :=
  let ds := Nat.toDigits 10 digits
  let top := place + ds.length - 1
  if top < -4 || 16 ≤ top then
    let rest := ds.drop 1
    ds.take 1 ++ (if rest.isEmpty then [] else '.' :: rest) ++ 'e' :: exponentText top
  else if 0 ≤ place then ds ++ zeros place.natAbs ++ ['.', '0']
  else if 0 ≤ top then
    ds.take (top.natAbs + 1) ++ '.' :: ds.drop (top.natAbs + 1)
  else '0' :: '.' :: (zeros (top.natAbs - 1) ++ ds)

/-- The text of a binary number. -/
def Binary.text : Binary → String
  | .notANumber => "nan"
  | .infinite isNegative => if isNegative then "-inf" else "inf"
  | .finite isNegative mantissa exponent =>
    let body := if mantissa = 0 then ['0', '.', '0']
      else let (digits, place) := shortest mantissa exponent; layOut digits place
    String.ofList (if isNegative then '-' :: body else body)

/-- The text of the binary number that a spelling stands for. -/
def canonical (spelling : String) : String :=
  match spelling with
  | "NaN" => Binary.notANumber.text
  | "Infinity" => (Binary.infinite false).text
  | "-Infinity" => (Binary.infinite true).text
  | _ => (Numeral.read spelling).toBinary.text

end OperationClasses.Number
