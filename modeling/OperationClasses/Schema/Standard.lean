import OperationClasses.Syntax.Document

/-!
# Standard definitions

The scalars, introspection types and directives that every schema has without defining them. A
definition of one of these names is accepted and has no effect.
-/
namespace OperationClasses.Schema.Standard

open Syntax

/-- The built-in scalars. -/
def scalars : List String := ["Int", "Float", "String", "Boolean", "ID"]

/-- The types that describe a schema, with their kinds. -/
def introspectionTypes : List (String × TypeKind) :=
  [("__Schema", .object), ("__Directive", .object), ("__DirectiveLocation", .enum),
    ("__Type", .object), ("__Field", .object), ("__InputValue", .object),
    ("__EnumValue", .object), ("__TypeKind", .enum)]

/-- The names of all standard types. -/
def typeNames : List String := scalars ++ introspectionTypes.map (·.1)

/-- The kind of a standard type. -/
def kind? (name : String) : Option TypeKind :=
  if scalars.contains name then some .scalar else introspectionTypes.lookup name

/-- What the rules need to know about a directive. -/
structure DirectiveFacts where
  name : String
  locations : List String
  arguments : List String
  /-- Arguments that must be given, with their printed types. -/
  required : List (String × String)
  isRepeatable : Bool
  deriving Repr, DecidableEq

def directives : List DirectiveFacts :=
  [⟨"include", ["FIELD", "FRAGMENT_SPREAD", "INLINE_FRAGMENT"], ["if"], [("if", "Boolean!")], false⟩,
    ⟨"skip", ["FIELD", "FRAGMENT_SPREAD", "INLINE_FRAGMENT"], ["if"], [("if", "Boolean!")], false⟩,
    ⟨"deprecated",
      ["FIELD_DEFINITION", "ARGUMENT_DEFINITION", "INPUT_FIELD_DEFINITION", "ENUM_VALUE"],
      ["reason"], [], false⟩,
    ⟨"specifiedBy", ["SCALAR"], ["url"], [("url", "String!")], false⟩,
    ⟨"oneOf", ["INPUT_OBJECT"], [], [], false⟩]

def directiveNames : List String := directives.map (·.name)

end OperationClasses.Schema.Standard
