/-!
# Tokens of a module

What a module is made of: names, literals, operators and the marks that structure its lines.
Literals are told apart no further than the grammar needs.
-/
namespace OperationClasses.PythonModule

/-- A token. -/
inductive Token where
  /-- An identifier or a keyword. -/
  | word (text : String)
  | number (isImaginary : Bool)
  /-- A text literal, or one of bytes, with the expressions in its fields. -/
  | literal (isBytes : Bool) (fields : List (List Char))
  | operator (text : String)
  | newline
  | indent
  | dedent
  deriving Repr, DecidableEq, Inhabited

namespace Token

def isLiteral : Token → Bool
  | .literal _ _ => true
  | _ => false

/-- Whether a token is a literal of bytes, or one of text. -/
def isLiteralOf (isBytes : Bool) : Token → Bool
  | .literal b _ => b == isBytes
  | _ => false

end Token

/-- The words that are no identifiers. -/
def keywords : List String :=
  ["False", "None", "True", "and", "as", "assert", "async", "await", "break", "class", "continue",
    "def", "del", "elif", "else", "except", "finally", "for", "from", "global", "if", "import",
    "in", "is", "lambda", "nonlocal", "not", "or", "pass", "raise", "return", "try", "while",
    "with", "yield"]

/-- The operators, so that none comes before a longer one that begins with it. -/
def operators : List String :=
  ["**=", "//=", ">>=", "<<=", "...", "!=", "%=", "&=", "**", "*=", "+=", "-=", "->", "//", "/=",
    ":=", "<<", "<=", "==", ">=", ">>", "@=", "^=", "|=", "%", "&", "(", ")", "*", "+", ",", "-",
    ".", "/", ":", ";", "<", "=", ">", "@", "[", "]", "^", "\x7b", "|", "\x7d", "~"]

/-- The bracket that closes another one. -/
def closing? : String → Option String
  | "(" => some ")"
  | "[" => some "]"
  | "\x7b" => some "\x7d"
  | _ => none

/-- Whether an operator is a closing bracket. -/
def isClosing (s : String) : Bool := s = ")" || s = "]" || s = "\x7d"

end OperationClasses.PythonModule
