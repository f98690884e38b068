import OperationClasses.Schema.Standard
import OperationClasses.TypeRef

/-!
# Kinds of types in their places

Which named types may stand where. Arguments and input fields take scalars, enumerations and
input types, fields take everything but input types; a reference is judged by the name at its
heart.
-/
namespace OperationClasses.Schema

open Syntax

/-- The type a document defines under a name. -/
def defined? (types : List TypeDefinition) (name : String) : Option TypeDefinition :=
  types.find? (·.name = name)

/-- The kind of a type, the standard ones included. -/
def kindOf? (types : List TypeDefinition) (name : String) : Option TypeKind :=
  (Standard.kind? name).or ((defined? types name).map (·.body.kind))

/-- Whether a kind of type can be given as input. -/
def takesInput : TypeKind → Bool
  | .scalar | .enum | .input => true
  | .object | .interface | .union => false

/-- Whether arguments and input fields can have the type. -/
def isInputType (types : List TypeDefinition) (t : TypeRef) : Bool :=
  ((t.name?.bind (kindOf? types)).map takesInput).getD false

/-- Whether fields can have the type. -/
def isOutputType (types : List TypeDefinition) (t : TypeRef) : Bool :=
  match (t.name?.bind (kindOf? types)) with
  | some .input | none => false
  | some _ => true

def hasKind (types : List TypeDefinition) (kind : TypeKind) (name : String) : Bool :=
  kindOf? types name == some kind

end OperationClasses.Schema
