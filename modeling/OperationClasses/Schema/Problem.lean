import OperationClasses.Schema.Suggestion
import OperationClasses.Syntax.Document
import OperationClasses.Syntax.Position

/-!
# What is wrong with a schema

The faults of a parsed schema, with their wording. Those of the first kind are found by looking
at the definitions one after another and are reported together; those of the second kind are
found while types are put together, and the first of them is reported alone.
-/
namespace OperationClasses

open Syntax

/-- A fault of the definitions. -/
inductive SchemaProblem where
  | severalSchemas
  | repeatedRoot (kind : OperationKind)
  | repeatedType (name : String)
  | repeatedEnumValue (type value : String)
  | repeatedField (type field : String)
  | repeatedArgument (owner argument : String)
  | repeatedDirective (name : String)
  | unknownType (name : String) (suggestions : List String)
  | unknownDirective (name : String)
  | misplacedDirective (name location : String)
  | repeatedUse (directive : String)
  | extendsUndefined (name : String) (suggestions : List String)
  | extendsOther (kind name : String)
  | unknownArgument (argument directive : String) (suggestions : List String)
  | repeatedGivenArgument (name : String)
  | repeatedInputField (name : String)
  | missingArgument (directive argument type : String)
  deriving Repr, DecidableEq

/-- How messages spell a place at which a directive can be applied. -/
def locationWords (location : String) : String :=
  String.ofList ((Text.lower location.toList).map fun c => if c = '_' then ' ' else c)

def SchemaProblem.message : SchemaProblem → String
  | .severalSchemas => "Must provide only one schema definition."
  | .repeatedRoot kind => "There can be only one " ++ kind.text ++ " type in schema."
  | .repeatedType name => "There can be only one type named '" ++ name ++ "'."
  | .repeatedEnumValue type value =>
    "Enum value '" ++ type ++ "." ++ value ++ "' can only be defined once."
  | .repeatedField type field =>
    "Field '" ++ type ++ "." ++ field ++ "' can only be defined once."
  | .repeatedArgument owner argument =>
    "Argument '" ++ owner ++ "(" ++ argument ++ ":)' can only be defined once."
  | .repeatedDirective name => "There can be only one directive named '@" ++ name ++ "'."
  | .unknownType name suggestions =>
    "Unknown type '" ++ name ++ "'." ++ Schema.Suggestion.question suggestions
  | .unknownDirective name => "Unknown directive '@" ++ name ++ "'."
  | .misplacedDirective name location =>
    "Directive '@" ++ name ++ "' may not be used on " ++ locationWords location ++ "."
  | .repeatedUse directive =>
    "The directive '@" ++ directive ++ "' can only be used once at this location."
  | .extendsUndefined name suggestions =>
    "Cannot extend type '" ++ name ++ "' because it is not defined." ++
      Schema.Suggestion.question suggestions
  | .extendsOther kind name => "Cannot extend non-" ++ kind ++ " type '" ++ name ++ "'."
  | .unknownArgument argument directive suggestions =>
    "Unknown argument '" ++ argument ++ "' on directive '@" ++ directive ++ "'." ++
      Schema.Suggestion.question suggestions
  | .repeatedGivenArgument name => "There can be only one argument named '" ++ name ++ "'."
  | .repeatedInputField name => "There can be only one input field named '" ++ name ++ "'."
  | .missingArgument directive argument type =>
    "Directive '@" ++ directive ++ "' argument '" ++ argument ++ "' of type '" ++ type ++
      "' is required, but it was not provided."

/-- What is wrong with an argument given to a standard directive. -/
inductive GivenFault where
  | missing (argument type : String)
  | null (argument type : String)
  | invalid (argument shown : String)
  deriving Repr, DecidableEq

def GivenFault.message : GivenFault → String
  | .missing argument type =>
    "Argument '" ++ argument ++ "' of required type '" ++ type ++ "' was not provided."
  | .null argument type =>
    "Argument '" ++ argument ++ "' of non-null type '" ++ type ++ "' must not be null."
  | .invalid argument shown => "Argument '" ++ argument ++ "' has invalid value " ++ shown ++ "."

/-- Why a member of a type or directive cannot be put together. -/
inductive MemberFault where
  | argumentType
  | fieldType
  | inputFieldType
  /-- A default value of a type that takes no input. -/
  | notAnInput (type : String)
  /-- A default value that contains itself. -/
  | endless
  | given (fault : GivenFault) (position : Position)
  deriving Repr, DecidableEq

def MemberFault.message : MemberFault → String
  | .argumentType => "Argument type must be a GraphQL input type."
  | .fieldType => "Field type must be an output type."
  | .inputFieldType => "Input field type must be a GraphQL input type."
  | .notAnInput type => "Unexpected input type: " ++ type ++ "."
  | .endless => "maximum recursion depth exceeded"
  | .given fault _ => fault.message

/-- The place in the text that the fault is about. -/
def MemberFault.position? : MemberFault → Option Position
  | .given _ p => some p
  | _ => none

/-- A message with the place and the lines around it. -/
def MemberFault.report (f : MemberFault) : String :=
  f.message ++ (f.position?.map Position.report).getD ""

/-- A fault of a member, with the types inside whose fields it was met, the outermost first. -/
structure MemberError where
  owners : List String
  fault : MemberFault
  deriving Repr, DecidableEq

namespace MemberError

/-- The same error, met while the fields of a type are put together. -/
def inside (owner : String) (e : MemberError) : MemberError := { e with owners := owner :: e.owners }

/-- The report of the fault behind the types it was met in. -/
def report (e : MemberError) : String :=
  String.join (e.owners.map (· ++ " fields cannot be resolved. ")) ++ e.fault.report

/-- The message alone. Inside a type the report of the fault is part of it. -/
def message (e : MemberError) : String := if e.owners.isEmpty then e.fault.message else e.report

/-- The place in the text, unless the message tells it. -/
def position? (e : MemberError) : Option Position :=
  if e.owners.isEmpty then e.fault.position? else none

end MemberError

/-- Why no schema can be built from a document. -/
inductive SchemaError where
  | invalid (problems : List SchemaProblem)
  | member (error : MemberError)
  | interfaces (type : String)
  | members (type : String)
  deriving Repr, DecidableEq

namespace SchemaError

def message : SchemaError → String
  | invalid problems => "\n\n".intercalate (problems.map (·.message))
  | member e => e.message
  | interfaces type =>
    type ++ " interfaces must be specified as a collection of GraphQLInterfaceType instances."
  | members type =>
    type ++ " types must be specified as a collection of GraphQLObjectType instances."

/-- The message with all that is known about the place. -/
def report : SchemaError → String
  | member e => e.report
  | e => e.message

end SchemaError

end OperationClasses
