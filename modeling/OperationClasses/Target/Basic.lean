import OperationClasses.PythonModule.Token
import OperationClasses.Target.EscapeFormat

/-!
# Targets

A target says how the names of a schema are spelled in the generated language: its containers,
the type of values about which nothing is known, how a value that may be missing is written,
which identifiers are reserved and how they are escaped. Two targets are built in. Their tables
are ordered, and the first entry of a key counts.
-/
namespace OperationClasses

/-- An output language. -/
structure Target where
  name : String
  /-- The path of the layout among the built-in ones and the user's. -/
  template : String
  /-- The type of properties whose type could not be resolved. -/
  anyType : String
  escapeFormat : EscapeFormat
  /-- Identifiers that are escaped unless a configuration says otherwise. -/
  reservedWords : List String
  /-- Type names by printed type reference, unless a configuration says otherwise. -/
  overrides : List (String × String)
  /-- The type of custom scalars that have no override; without it they keep their name. -/
  scalarFallback? : Option String
  /-- Whether the generated text must be a module of the language. -/
  isChecked : Bool
  /-- A list of elements of a type. -/
  listType : String → String
  /-- A type whose values may be missing. -/
  optional : String → String
  /-- An escaped name as a valid identifier. -/
  identifier : String → String

namespace Target

/-- C# marks values that may be missing in the table of overrides only. -/
def csharp : Target where
  name := "csharp"
  template := "csharp/operations.cs.j2"
  anyType := "object"
  escapeFormat := .around "@" ""
  reservedWords := ["case", "private", "public"]
  overrides := [("String", "string"), ("String!", "string"), ("ID", "string"), ("ID!", "string"),
    ("AWSDateTime", "DateTime?"), ("AWSDateTime!", "DateTime"), ("Int", "int?"), ("Int!", "int"),
    ("Boolean", "bool?"), ("Boolean!", "bool"), ("Float", "float?"), ("Float!", "float")]
  scalarFallback? := none
  isChecked := false
  listType element := "List<" ++ element ++ ">"
  optional type := type
  identifier name := name

/-- Python's untyped values. -/
def pythonAny : String := "Any"

/-- `Optional[…]` around a type, once; the untyped values include the missing one already. -/
def pythonOptional (type : String) : String :=
  if "Optional[".toList.isPrefixOf type.toList || type = pythonAny then type
  else "Optional[" ++ type ++ "]"

/-- Leading underscores would make a field private, so they are dropped and one is put at the
end. -/
def pythonIdentifier (name : String) : String :=
  match name.toList with
  | '_' :: rest => String.ofList (rest.dropWhile (· = '_') ++ ['_'])
  | _ => name

/-- Python writes a value that may be missing as `Optional[…]`. -/
def python : Target where
  name := "python"
  template := "python/operations.py.j2"
  anyType := pythonAny
  escapeFormat := .around "" "_"
  reservedWords := PythonModule.keywords
  overrides := [("String", "str"), ("ID", "str"), ("Int", "int"), ("Float", "float"),
    ("Boolean", "bool"), ("AWSDateTime", "datetime"), ("AWSDate", "date"), ("AWSJSON", "Any")]
  scalarFallback? := some "Any"
  isChecked := true
  listType element := "List[" ++ element ++ "]"
  optional := pythonOptional
  identifier := pythonIdentifier

end Target

end OperationClasses
