import OperationClasses.Syntax.Document
import OperationClasses.Text.Case

/-!
# Schemas

A schema lists its types in the order of their definitions, each with the fields and values of
its extensions merged in. Root types are named only if one of them has an unusual name;
otherwise a root type is the object type that bears the name of its operation kind.
-/
namespace OperationClasses

open Syntax

/-- A schema. -/
structure Schema where
  /-- The root types, if one of them has an unusual name or the schema is described. -/
  roots? : Option (List (OperationKind × String))
  /-- The directives the schema defines. -/
  directives : List DirectiveDefinition
  /-- The types the schema defines. -/
  types : List TypeDefinition
  deriving Repr, Inhabited

namespace Schema

/-- The type of a given name and kind. -/
def find? (s : Schema) (kind : TypeKind) (name : String) : Option TypeDefinition :=
  s.types.find? fun d => d.name = name && d.body.kind = kind

def object? (s : Schema) (name : String) : Option TypeDefinition := s.find? .object name

def interface? (s : Schema) (name : String) : Option TypeDefinition := s.find? .interface name

def input? (s : Schema) (name : String) : Option TypeDefinition := s.find? .input name

def enum? (s : Schema) (name : String) : Option TypeDefinition := s.find? .enum name

/-- A custom scalar; the standard ones are not part of a schema. -/
def scalar? (s : Schema) (name : String) : Option TypeDefinition := s.find? .scalar name

end Schema

namespace Syntax.TypeDefinition

/-- The fields of an object or interface type. -/
def fields (d : TypeDefinition) : List FieldDefinition :=
  match d.body with
  | .object _ fs => fs
  | .interface _ fs => fs
  | _ => []

/-- The fields of an input type. -/
def inputFields (d : TypeDefinition) : List InputValueDefinition :=
  match d.body with
  | .input fs => fs
  | _ => []

/-- The values of an enumeration. -/
def enumValues (d : TypeDefinition) : List EnumValueDefinition :=
  match d.body with
  | .enum vs => vs
  | _ => []

end Syntax.TypeDefinition

namespace Schema

/-- The fields of an object or interface type; none for other names. -/
def fields? (s : Schema) (name : String) : Option (List FieldDefinition) :=
  ((s.object? name).or (s.interface? name)).map (·.fields)

/-- The root type for a word: the one named for the operation kind that the word spells, else the
first object type that bears the word as its name in any case. -/
def rootFor? (s : Schema) (word : String) : Option TypeDefinition :=
  match (OperationKind.ofText? word).bind fun kind => (s.roots?.getD []).lookup kind with
  | some name => s.object? name
  | none => s.types.find? fun d =>
    d.body.kind = .object && Text.lowerText d.name = Text.lowerText word

/-- The root type of an operation kind. -/
def root? (s : Schema) (kind : OperationKind) : Option TypeDefinition := s.rootFor? kind.text

/-- Whether the schema defines nothing at all. -/
def isBlank (s : Schema) : Bool := s.roots?.isNone && s.directives.isEmpty && s.types.isEmpty

end Schema

end OperationClasses
