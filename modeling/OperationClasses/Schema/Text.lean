import OperationClasses.Schema.Default

/-!
# The text of a schema

A schema is used by way of its text. There has to be one, and every default value in it has to
have a literal: lists and objects have none at a custom scalar, and infinite numbers have none at
all.
-/
namespace OperationClasses.Schema

open Syntax

/-- Why a schema cannot be used. -/
inductive TextFault where
  /-- There is nothing to write. -/
  | blank
  | noLiteral (shown : String)
  | notFinite (shown : String)
  deriving Repr, DecidableEq, Inhabited

namespace TextFault

/-- The syntax error of a text without definitions. -/
def emptyText : SyntaxError := ⟨.unexpected .finish, 0, ""⟩

def message : TextFault → String
  | blank => emptyText.message
  | noLiteral shown => "Cannot convert value to AST: " ++ shown ++ "."
  | notFinite shown => "Float cannot represent non numeric value: " ++ shown

end TextFault

/-- Whether a value is a number beyond all finite ones. -/
def isInfinite : Json → Bool
  | .decimal spelling =>
    match (Number.Numeral.read spelling).toBinary with
    | .infinite _ => true
    | _ => false
  | _ => false

/-- Why a value has no literal at a scalar. -/
def scalarFault? (name : String) (v : Json) : Option TextFault :=
  if name = "Float" then if isInfinite v then some (.notFinite v.excerpt) else none
  else
    match v with
    | .array _ | .object _ => some (.noLiteral v.excerpt)
    | v => if isInfinite v then some (.noLiteral v.excerpt) else none

/-- The type of a field. -/
def fieldType? (fields : List InputField) (name : String) : Option TypeRef :=
  (fields.find? (·.name = name)).map (·.type)

section

variable (types : List TypeDefinition) (fieldsOf : FieldLookup)

/-- The fields of a type; none when they cannot be found. -/
def fieldsNamed (name : String) : List InputField :=
  match (defined? types name).map fieldsOf with
  | some (.ok fields) => fields
  | _ => []

mutual

/-- Why a value has no literal at a type. -/
def literalFault? : TypeRef → Json → Option TextFault
  | .nonNull t, v => literalFault? t v
  | .list t, v =>
    match v with
    | .array items => itemsFault? t items
    | v => literalFault? t v
  | .named name?, v =>
    let name := name?.getD ""
    match kindOf? types name, v with
    | _, .null => none
    | some .scalar, v => scalarFault? name v
    | some .input, .object members => membersFault? (fieldsNamed types fieldsOf name) members
    | _, _ => none
  | .misnamed _, _ | .tableNamed _, _ | .other _, _ => none
  termination_by t v => (sizeOf v, sizeOf t)

def itemsFault? (t : TypeRef) : List Json → Option TextFault
  | [] => none
  | v :: rest => (literalFault? t v).or (itemsFault? t rest)
  termination_by vs => (sizeOf vs, sizeOf t)

def membersFault? (fields : List InputField) : List (String × Json) → Option TextFault
  | [] => none
  | (name, v) :: rest =>
    ((fieldType? fields name).bind fun t => literalFault? t v).or (membersFault? fields rest)
  termination_by members => (sizeOf members, 0)

end

/-- Why the default of a definition has no literal. -/
def defaultFault? (d : InputValueDefinition) : Option TextFault :=
  match defaultOf types fieldsOf d with
  | .ok (some v) => literalFault? types fieldsOf d.type v
  | _ => none

end

/-- The definitions in a type that can have defaults. -/
def defaultsIn (d : TypeDefinition) : List InputValueDefinition :=
  d.fields.flatMap (·.arguments) ++ d.inputFields

/-- Why the schema cannot be used: directives are looked at before types. -/
def textFault? (s : Schema) : Option TextFault :=
  if s.isBlank then some .blank
  else (s.directives.flatMap (·.arguments) ++ s.types.flatMap defaultsIn).findSome?
    (defaultFault? s.types (fieldLookup s.types ""))

end OperationClasses.Schema
