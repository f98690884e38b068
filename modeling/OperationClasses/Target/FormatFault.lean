import OperationClasses.Text.Quoted

/-!
# Faults of escape formats

What can go wrong when an identifier is put into a format: the format does not read, a field of
it asks for what is not there, or it asks for a layout that texts do not have. Faults of the last
two sorts can depend on the identifier.
-/
namespace OperationClasses

/-- What a field can stand for: a text, or a class by its name. -/
inductive FormatSubject where
  | text (s : List Char)
  | sort (name : String)
  deriving Repr, DecidableEq

/-- Why an identifier has no spelling. -/
inductive FormatFault where
  | singleOpen
  | singleClose
  | unclosedField
  | openInField
  | missingConversion
  | colonExpected
  | unmatchedOpen
  | nestedTooDeep
  | tooManyDigits
  | emptyAttribute
  | strayAfterBracket
  | automaticAfterNumbered
  | numberedAfterAutomatic
  | unknownConversion (c : Char)
  | missingPrecision
  | bothSeparators
  | separatorWith (separator code : Char)
  | signInSpec
  | spaceInSpec
  | zeroInSpec
  | alternateInSpec
  | paddedSignInSpec
  | unknownCode (c : Char)
  | invalidSpec (spec : String)
  | indexOutOfRange (index : Nat)
  | characterOutOfRange
  | unknownName (name : String)
  | unknownAttribute (owner : FormatSubject) (name : String)
  | keyOfText
  | itemOfSort (name : String)
  | specForSort
  | outOfMemory
  deriving Repr, DecidableEq

namespace FormatFault

/-- A character inside a message: itself, or its number when it is not plain; `top` is the first
number that counts as not plain. -/
def showChar (top : Nat) (c : Char) : String :=
  if 32 < c.toNat && c.toNat < top then String.singleton c
  else "\\x" ++ String.ofList (Nat.toDigits 16 c.toNat)

def message : FormatFault → String
  | singleOpen => "Single '\x7b' encountered in format string"
  | singleClose => "Single '\x7d' encountered in format string"
  | unclosedField => "expected '\x7d' before end of string"
  | openInField => "unexpected '\x7b' in field name"
  | missingConversion => "end of string while looking for conversion specifier"
  | colonExpected => "expected ':' after conversion specifier"
  | unmatchedOpen => "unmatched '\x7b' in format spec"
  | nestedTooDeep => "Max string recursion exceeded"
  | tooManyDigits => "Too many decimal digits in format string"
  | emptyAttribute => "Empty attribute in format string"
  | strayAfterBracket => "Only '.' or '[' may follow ']' in format field specifier"
  | automaticAfterNumbered =>
    "cannot switch from manual field specification to automatic field numbering"
  | numberedAfterAutomatic =>
    "cannot switch from automatic field numbering to manual field specification"
  | unknownConversion c => "Unknown conversion specifier " ++ showChar 127 c
  | missingPrecision => "Format specifier missing precision"
  | bothSeparators => "Cannot specify both ',' and '_'."
  | separatorWith separator code =>
    "Cannot specify '" ++ String.singleton separator ++ "' with '" ++ showChar 128 code ++ "'."
  | signInSpec => "Sign not allowed in string format specifier"
  | spaceInSpec => "Space not allowed in string format specifier"
  | zeroInSpec => "Negative zero coercion (z) not allowed in string format specifier"
  | alternateInSpec => "Alternate form (#) not allowed in string format specifier"
  | paddedSignInSpec => "'=' alignment not allowed in string format specifier"
  | unknownCode c => "Unknown format code '" ++ showChar 128 c ++ "' for object of type 'str'"
  | invalidSpec spec => "Invalid format specifier '" ++ spec ++ "' for object of type 'str'"
  | indexOutOfRange index =>
    "Replacement index " ++ toString index ++ " out of range for positional args tuple"
  | characterOutOfRange => "string index out of range"
  | unknownName name => Text.escaped name
  | unknownAttribute (.text _) name => "'str' object has no attribute '" ++ name ++ "'"
  | unknownAttribute (.sort sort) name =>
    "type object '" ++ sort ++ "' has no attribute '" ++ name ++ "'"
  | keyOfText => "string indices must be integers, not 'str'"
  | itemOfSort name => "type '" ++ name ++ "' is not subscriptable"
  | specForSort => "unsupported format string passed to type.__format__"
  | outOfMemory => ""

end FormatFault

end OperationClasses
