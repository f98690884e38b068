import OperationClasses.Text.Hex
import OperationClasses.Text.Printable

/-!
# Quoted literals

Two ways to write a text between quotes. An escaped literal is a single line of printable
characters in single quotes, or in double quotes when only single quotes occur in the text. A
verbatim literal keeps the text as it is and writes each double quote twice.
-/
namespace OperationClasses.Text

/-- The quote that an escaped literal of this text uses. -/
def quoteFor (s : List Char) : Char :=
  if s.contains '\'' && !s.contains '"' then '"' else '\''

/-- How one character is written inside an escaped literal. -/
def escapeChar (quote c : Char) : List Char :=
  if c = quote || c = '\\' then ['\\', c]
  else if c = '\t' then ['\\', 't']
  else if c = '\n' then ['\\', 'n']
  else if c = '\r' then ['\\', 'r']
  else if isPrintable c then [c]
  else if c.toNat ≤ 0xff then '\\' :: 'x' :: hexFixed false 2 c.toNat
  else if c.toNat ≤ 0xffff then '\\' :: 'u' :: hexFixed false 4 c.toNat
  else '\\' :: 'U' :: hexFixed false 8 c.toNat

/-- The escaped literal of a text. -/
def escapedChars (s : List Char) : List Char :=
  quoteFor s :: (s.flatMap (escapeChar (quoteFor s)) ++ [quoteFor s])

/-- The escaped literal of a text. -/
def escaped (s : String) : String := String.ofList (escapedChars s.toList)

/-- How one byte is written inside an escaped literal: as its character if that is one of
ASCII, otherwise by its number. -/
def escapeByte (quote : Char) (b : UInt8) : List Char :=
  if b < 0x80 then escapeChar quote (Char.ofNat b.toNat)
  else '\\' :: 'x' :: hexFixed false 2 b.toNat

/-- The escaped literal of bytes. -/
def escapedBytes (bytes : List UInt8) : String :=
  let quote := quoteFor (bytes.map fun b => Char.ofNat b.toNat)
  "b" ++ String.ofList (quote :: (bytes.flatMap (escapeByte quote) ++ [quote]))

/-- The inside of a verbatim literal: each double quote twice, all else once. -/
def doubleQuotes : List Char → List Char
  | [] => []
  | c :: rest => if c = '"' then '"' :: '"' :: doubleQuotes rest else c :: doubleQuotes rest

/-- The inside of a verbatim literal. -/
def verbatim (s : String) : String := String.ofList (doubleQuotes s.toList)

end OperationClasses.Text
