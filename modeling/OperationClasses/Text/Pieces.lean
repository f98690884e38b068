/-!
# Pieces of a text

Cutting a text at every occurrence of a character, and tests of its beginning and end.
-/
namespace OperationClasses.Text

/-- The pieces of a text between separators; there is always at least one. -/
def pieces (separator : Char) : List Char → List (List Char)
  | [] => [[]]
  | c :: rest =>
    match pieces separator rest with
    | [] => [[c]]
    | w :: ws => if c = separator then [] :: w :: ws else (c :: w) :: ws

/-- Whether a text begins with another one. -/
def startsWith (s beginning : String) : Bool := beginning.toList.isPrefixOf s.toList

/-- Whether a text ends with another one. -/
def endsWith (s ending : String) : Bool := ending.toList.isSuffixOf s.toList

/-- A text without a given ending. -/
def dropEnding (s ending : String) : String :=
  if endsWith s ending then String.ofList (s.toList.take (s.length - ending.length)) else s

/-- The part of a text behind the last occurrence of a character. -/
def behindLast (c : Char) (s : String) : String :=
  String.ofList ((s.toList.reverse.takeWhile (· ≠ c)).reverse)

end OperationClasses.Text
