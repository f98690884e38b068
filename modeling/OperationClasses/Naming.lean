import OperationClasses.Text.Case
import OperationClasses.Text.Pieces

/-!
# Word case

Names of the schema come in camel case, Pascal case or with underscores. `snakeCase` puts an
underscore in front of each word and lowers the rest, `pascalCase` joins the capitalized words.
A word starts at a capital that is followed by a small letter, or that follows a small letter
or a digit.
-/
namespace OperationClasses.Naming

open Text

/-- Whether a character is one of the small letters that continue a word. -/
def isSmall (c : Char) : Bool := 'a' ≤ c && c ≤ 'z'

/-- Whether a character is one of the capitals that can start a word. -/
def isCapital (c : Char) : Bool := 'A' ≤ c && c ≤ 'Z'

/-- Whether a character is a decimal digit. -/
def isDigit (c : Char) : Bool := '0' ≤ c && c ≤ '9'

/-- An underscore before each capital that a small letter follows, unless it is the first
character, stands on a new line or right after the small letters of such a word. `inWord` says
that those small letters are being copied. -/
def breakWords (inWord : Bool) : List Char → List Char
  | [] => []
  | [c] => [c]
  | [c, d] => [c, d]
  | c :: u :: l :: rest =>
    if inWord && isSmall c then c :: breakWords true (u :: l :: rest)
    else if c != '\n' && isCapital u && isSmall l then
      c :: '_' :: u :: l :: breakWords true rest
    else c :: breakWords false (u :: l :: rest)

/-- An underscore between a small letter or digit and the capital after it. -/
def breakCapitals : List Char → List Char
  | [] => []
  | [c] => [c]
  | c :: u :: rest =>
    if (isSmall c || isDigit c) && isCapital u then c :: '_' :: breakCapitals (u :: rest)
    else c :: breakCapitals (u :: rest)

/-- The words of a name in lower case, joined by underscores. -/
def snakeChars (s : List Char) : List Char :=
  lower (breakCapitals (breakWords false s))

/-- The capitalized words of a name, joined. -/
def pascalChars (s : List Char) : List Char :=
  (pieces '_' (snakeChars s)).flatMap capitalize

/-- The words of a name in lower case, joined by underscores. -/
def snakeCase (s : String) : String := String.ofList (snakeChars s.toList)

/-- The capitalized words of a name, joined. -/
def pascalCase (s : String) : String := String.ofList (pascalChars s.toList)

end OperationClasses.Naming
