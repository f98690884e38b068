import OperationClasses.Text.Blank

/-!
# One-line comments

A diagnostic is written behind a comment mark, so it has to fit on one line: carriage returns
are dropped, every run of white space becomes one space, and what is longer than 160 characters
is cut to 157 and ends in three dots.
-/
namespace OperationClasses.Text

/-- The longest comment that is written whole. -/
def commentLimit : Nat := 160

/-- Cuts an overlong text and marks the cut. -/
def shorten (s : List Char) : List Char :=
  if s.length ≤ commentLimit then s else s.take (commentLimit - 3) ++ ['.', '.', '.']

/-- The text as a single line without outer blanks. -/
def commentChars (s : List Char) : List Char :=
  trim (shorten (collapse (s.filter (· ≠ '\r'))))

/-- The text as a single line without outer blanks. -/
def commentLine (s : String) : String := String.ofList (commentChars s.toList)

end OperationClasses.Text
