import OperationClasses.Syntax.Position
import OperationClasses.Syntax.Token

/-!
# Syntax errors

A syntax error is a cause and the offset at which it was noticed. Its report is the message with
the lines around that place.
-/
namespace OperationClasses.Syntax

/-- What would have fitted at a place. -/
inductive Expectation where
  | mark (m : Mark)
  | keyword (word : String)
  | name
  | finish
  deriving Repr, DecidableEq, Inhabited

def Expectation.describe : Expectation → String
  | .mark m => "'" ++ m.text ++ "'"
  | .keyword word => "'" ++ word ++ "'"
  | .name => "Name"
  | .finish => "<EOF>"

/-- Why a text does not parse. -/
inductive SyntaxCause where
  | lexical (fault : LexicalFault)
  | expected (what : Expectation) (found : Lexeme)
  | unexpected (found : Lexeme)
  | variableInConstant (name : String)
  | reservedEnumValue (found : Lexeme)
  | describedShorthand
  | describedNothing
  | tooDeep
  deriving Repr, DecidableEq, Inhabited

def SyntaxCause.message : SyntaxCause → String
  | .lexical fault => fault.message
  | .expected what found => "Expected " ++ what.describe ++ ", found " ++ found.describe ++ "."
  | .unexpected found => "Unexpected " ++ found.describe ++ "."
  | .variableInConstant name => "Unexpected variable '$" ++ name ++ "' in constant value."
  | .reservedEnumValue found =>
    found.describe ++ " is reserved and cannot be used for an enum value."
  | .describedShorthand =>
    "Unexpected description, descriptions are not supported on shorthand queries."
  | .describedNothing =>
    "Unexpected description, only GraphQL definitions support descriptions."
  | .tooDeep => "Document is nested too deeply. Parsing aborted."

/-- A syntax error of a text. -/
structure SyntaxError where
  cause : SyntaxCause
  offset : Nat
  text : String
  deriving Repr, DecidableEq, Inhabited

namespace SyntaxError

def message (e : SyntaxError) : String := "Syntax Error: " ++ e.cause.message

/-- Where the error was noticed. -/
def position (e : SyntaxError) : Position := ⟨e.text, e.offset⟩

/-- Line and column, both counted from one. -/
def location (e : SyntaxError) : Nat × Nat := e.position.location

/-- Message, place and excerpt. -/
def report (e : SyntaxError) : String := e.message ++ e.position.report

end SyntaxError

end OperationClasses.Syntax
