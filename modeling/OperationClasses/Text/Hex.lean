/-!
# Hexadecimal numerals

Fixed-width and shortest numerals in base sixteen, in either case, and the value of a digit.
-/
namespace OperationClasses.Text

/-- The digit of a number below sixteen. -/
def hexDigit (upper : Bool) (n : Nat) : Char :=
  if n < 10 then Char.ofNat ('0'.toNat + n)
  else Char.ofNat ((if upper then 'A' else 'a').toNat + (n - 10))

/-- The last `width` digits of a number. -/
def hexFixed (upper : Bool) : Nat → Nat → List Char
  | 0, _ => []
  | width + 1, n => hexFixed upper width (n / 16) ++ [hexDigit upper (n % 16)]

/-- A code point with at least `width` digits and no leading zero beyond them. -/
def hexAtLeast (upper : Bool) (width n : Nat) : List Char :=
  if n < Nat.pow 16 width then hexFixed upper width n
  else if n < 0x100000 then hexFixed upper 5 n
  else hexFixed upper 6 n

/-- A number with as few digits as possible, marked as hexadecimal. -/
def hexText (n : Nat) : String := "0x" ++ String.ofList (Nat.toDigits 16 n)

/-- The value of a hexadecimal digit of either case. -/
def hexValue? (c : Char) : Option Nat :=
  if '0' ≤ c ∧ c ≤ '9' then some (c.toNat - '0'.toNat)
  else if 'a' ≤ c ∧ c ≤ 'f' then some (c.toNat - 'a'.toNat + 10)
  else if 'A' ≤ c ∧ c ≤ 'F' then some (c.toNat - 'A'.toNat + 10)
  else none

/-- The number that a list of digits spells; none unless all are hexadecimal digits. -/
def hexNumber? (digits : List Char) : Option Nat :=
  digits.foldl (fun acc c => acc.bind fun n => (hexValue? c).map (16 * n + ·)) (some 0)

end OperationClasses.Text
