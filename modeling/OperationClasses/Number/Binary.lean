/-!
# Binary numbers

Decimal numerals as binary floating-point numbers of 64 bits. A numeral stands for the number
nearest to it that has at most 53 significant bits, of two equally near ones for the even one; a
numeral beyond the largest such number stands for an infinite one. All is exact arithmetic on
natural numbers.
-/
namespace OperationClasses.Number

/-- A decimal numeral: a whole number times a power of ten. -/
structure Numeral where
  isNegative : Bool
  digits : Nat
  exponent : Int
  deriving Repr, DecidableEq, Inhabited

/-- A binary number: a whole number times a power of two, or beyond all of those. -/
inductive Binary where
  | finite (isNegative : Bool) (mantissa : Nat) (exponent : Int)
  | infinite (isNegative : Bool)
  | notANumber
  deriving Repr, DecidableEq, Inhabited

/-- The value of decimal digits; other characters are passed over. -/
def digitsValue (s : List Char) : Nat :=
  s.foldl (fun n c => if c.isDigit then 10 * n + (c.toNat - '0'.toNat) else n) 0

/-- The whole number behind the mark of an exponent. -/
def exponentValue : List Char → Int
  | '-' :: digits => -(digitsValue digits : Int)
  | '+' :: digits => digitsValue digits
  | digits => digitsValue digits

/-- Reads a numeral: digits with a sign, a point and an exponent, each perhaps missing. -/
def Numeral.read (spelling : String) : Numeral :=
  let s := spelling.toList
  let isNegative := s.head? = some '-'
  let unsigned := if isNegative then s.drop 1 else s
  let isMark := fun c => c = 'e' || c = 'E'
  let coefficient := unsigned.takeWhile (!isMark ·)
  let power := exponentValue ((unsigned.dropWhile (!isMark ·)).drop 1)
  let places := ((coefficient.dropWhile (· ≠ '.')).filter Char.isDigit).length
  ⟨isNegative, digitsValue coefficient, power - places⟩

/-- A quotient rounded to the nearest whole number, a half to the even one. -/
def roundDiv (n d : Nat) : Nat :=
  let q := n / d
  match compare (2 * (n % d)) d with
  | .lt => q
  | .gt => q + 1
  | .eq => if q % 2 = 0 then q else q + 1

/-- Numerator and denominator of a quotient times a power of two. -/
def timesPowerOfTwo (n d : Nat) (e : Int) : Nat × Nat :=
  if e < 0 then (n, d * Nat.pow 2 e.natAbs) else (n * Nat.pow 2 e.natAbs, d)

/-- The least exponent of a binary number, and the largest. -/
def leastExponent : Int := -1074

def largestExponent : Int := 971

/-- The binary number nearest to a positive quotient. -/
def nearest (isNegative : Bool) (n d : Nat) : Binary :=
  let guess := max ((Nat.log2 n : Int) - (Nat.log2 d : Int) - 52) leastExponent
  let (n₀, d₀) := timesPowerOfTwo n d (-guess)
  let exponent := if n₀ < Nat.pow 2 52 * d₀ then max (guess - 1) leastExponent else guess
  let (n₁, d₁) := timesPowerOfTwo n d (-exponent)
  let mantissa := roundDiv n₁ d₁
  let (mantissa, exponent) := if mantissa = Nat.pow 2 53 then (Nat.pow 2 52, exponent + 1)
    else (mantissa, exponent)
  if exponent > largestExponent then .infinite isNegative
  else .finite isNegative mantissa exponent

/-- The number of decimal digits. -/
def width (n : Nat) : Nat := (Nat.toDigits 10 n).length

/-- The binary number nearest to a numeral. -/
def Numeral.toBinary (x : Numeral) : Binary :=
  let top := x.exponent + width x.digits
  if x.digits = 0 || top < -400 then .finite x.isNegative 0 0
  else if top > 400 then .infinite x.isNegative
  else if x.exponent < 0 then nearest x.isNegative x.digits (Nat.pow 10 x.exponent.natAbs)
  else nearest x.isNegative (x.digits * Nat.pow 10 x.exponent.natAbs) 1

end OperationClasses.Number
