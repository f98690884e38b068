import OperationClasses.PythonModule.Lexer
import OperationClasses.PythonModule.Statement

/-!
# Checking a module

A text is a module when it consists of tokens, these make statements, and the fields of formatted
literals hold expressions. The expression of a field is read as if it stood in parentheses.
-/
namespace OperationClasses.PythonModule

/-- A bound on how deep the steps call each other: between two tokens that are taken away the
chain of calls is shorter than this. -/
def callsPerToken : Nat := 40

/-- A bound on how deep the steps call each other for tokens. -/
def callBound (ts : List Token) : Nat := callsPerToken * (ts.length + 1)

mutual

/-- Whether the fields of a token hold expressions. The bound is one on how deep they can be. -/
def hasFitFields : Nat → Token → Bool
  | n, .literal _ fields => fields.all (isFieldExpression n)
  | _, _ => true

/-- Whether a text is the expression of a field. -/
def isFieldExpression : Nat → List Char → Bool
  | 0, _ => false
  | n + 1, text =>
    match tokensOf ('(' :: (text ++ [')', '\n'])) with
    | some ts =>
      (Parse.starExpressions (callBound ts) ts).isSome && ts.all (hasFitFields n)
    | none => false

end

/-- Whether tokens make statements. -/
def areStatements (ts : List Token) : Bool :=
  ts.isEmpty ||
    match Parse.statements (callBound ts) ts with
    | some (_, rest) => rest.isEmpty
    | none => false

/-- Whether a text is a module. -/
def isModule (text : String) : Bool :=
  match tokens text with
  | some ts => areStatements ts && ts.all (hasFitFields (text.length + 1))
  | none => false

end OperationClasses.PythonModule
