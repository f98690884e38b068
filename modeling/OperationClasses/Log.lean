import OperationClasses.Syntax.Document

/-!
# Log

What the generator notes while it works: things that are unusual but do not stop it, and the
reason right before it stops. Each entry has a level and a channel, which names the part of the
work it is about.
-/
namespace OperationClasses

open Syntax

inductive LogLevel where
  | debug | warning | error
  deriving Repr, DecidableEq

def LogLevel.text : LogLevel → String
  | .debug => "DEBUG"
  | .warning => "WARNING"
  | .error => "ERROR"

/-- Something worth noting. -/
inductive LogEntry where
  | undefinedFragment (name : String)
  | unknownField (field type : String)
  | missingRoot (kind : OperationKind)
  | anonymousOperation (kind : OperationKind) (path : String)
  | repeatedOperation (name path : String)
  | skippedDocument (path : String)
  | brokenSchema (path reason : String)
  | brokenDocument (file reason : String)
  deriving Repr, DecidableEq

namespace LogEntry

def level : LogEntry → LogLevel
  | undefinedFragment _ | unknownField .. | missingRoot _ | anonymousOperation ..
  | skippedDocument _ => .debug
  | repeatedOperation .. => .warning
  | brokenSchema .. | brokenDocument .. => .error

def channel : LogEntry → String
  | undefinedFragment _ | unknownField .. | missingRoot _ => "gql_opgen.core.typed_selection"
  | anonymousOperation .. => "gql_opgen.core.operations"
  | repeatedOperation .. => "gql_opgen.core.generator"
  | skippedDocument _ | brokenSchema .. | brokenDocument .. => "gql_opgen.core.loader"

def message : LogEntry → String
  | undefinedFragment name => "Fragment " ++ name ++ " is not defined in the document"
  | unknownField field type => "Field " ++ field ++ " not found in type " ++ type
  | missingRoot kind => "Schema has no root type for " ++ kind.text ++ " operations"
  | anonymousOperation kind path =>
    "Skipping anonymous " ++ kind.text ++ " in " ++ (if path = "" then "<document>" else path)
  | repeatedOperation name path =>
    "Operation " ++ name ++ " is defined more than once (" ++ path ++ ")"
  | skippedDocument path => "Skipping " ++ path ++ ": no operations or fragments"
  | brokenSchema path reason => "Error building schema from " ++ path ++ ": " ++ reason
  | brokenDocument file reason => "Error parsing " ++ file ++ ": " ++ reason

/-- Level, channel and message on one line. -/
def line (e : LogEntry) : String := e.level.text ++ " " ++ e.channel ++ ": " ++ e.message

end LogEntry

end OperationClasses
