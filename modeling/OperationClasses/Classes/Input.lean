import OperationClasses.Classes.Model
import OperationClasses.Resolver

/-!
# Input classes

The classes of the input types that variables reach. Types are expanded depth first: the types
of a type's fields before the type itself, each type once, so that a class stands behind the
classes it needs except where types refer to each other in circles. A request has one property
per variable.
-/
namespace OperationClasses.Input

open Syntax

/-- What an expansion has done so far. -/
structure Expansion where
  /-- The types that were begun. -/
  seen : List String := []
  /-- The finished classes, dependencies first. -/
  classes : List ClassModel := []
  /-- The enumerations whose names were spelled. -/
  enums : List String := []
  /-- The names that were escaped, in their order. -/
  escaped : List String := []
  deriving Repr, Inhabited

namespace Expansion

/-- Notes that a reference was spelled. -/
def noteEnum (e : Expansion) (r : Resolver) (t : TypeRef) : Expansion :=
  { e with enums := meet e.enums (r.enumMet? t) }

/-- Notes that names were escaped. -/
def noteEscapes (e : Expansion) (names : List String) : Expansion :=
  { e with escaped := e.escaped ++ names }

end Expansion

/-- The property of a variable or input field. -/
def property (r : Resolver) (provenance name : String) (t : TypeRef) : Property :=
  match r.resolve none provenance t with
  | .error u => .of (r.escape name) r.target.anyType name false (some u.detail)
  | .ok spelled => .of (r.escape name) spelled name t.isRequired none

/-- The class of an input type. -/
def classOf (r : Resolver) (d : TypeDefinition) : ClassModel :=
  .flat (r.escape d.name) (d.inputFields.map fun f => property r "input" f.name f.type)

/-- The input type at the heart of a reference. -/
def nested? (s : Schema) (t : TypeRef) : Option TypeDefinition := t.name?.bind s.input?

/-- Expands a type unless it was begun before. The bound is the number of types that can still
be begun inside each other. -/
def expandWithin (r : Resolver) (s : Schema) : Nat → TypeDefinition → Expansion → Expansion
  | 0, _, e => e
  | n + 1, d, e =>
    if e.seen.contains d.name then e
    else
      let e := d.inputFields.foldl (fun e f =>
        let e := match nested? s f.type with
          | some inner => expandWithin r s n inner e
          | none => e
        (e.noteEnum r f.type).noteEscapes ((r.nameEscaped? f.type).toList ++ [f.name]))
        { e with seen := e.seen ++ [d.name], escaped := e.escaped ++ [d.name] }
      { e with classes := e.classes ++ [classOf r d] }

/-- Expands the input type of a name, if there is one. -/
def expand (r : Resolver) (s : Schema) (name? : Option String) (e : Expansion) : Expansion :=
  match name?.bind s.input? with
  | some d => (expandWithin r s (s.types.length + 1) d e).noteEscapes [d.name]
  | none => e

/-- The name of the class of an input type; none for other names. -/
def topName? (r : Resolver) (s : Schema) (name? : Option String) : Option String :=
  (name?.bind s.input?).map fun d => r.escape d.name

/-- Expands the types of variables, one after another. -/
def expandVariables (r : Resolver) (s : Schema) (vs : List VariableDefinition)
    (e : Expansion) : Expansion :=
  vs.foldl (fun e v =>
    ((expand r s v.type.name? e).noteEnum r v.type).noteEscapes
      (v.name :: (r.nameEscaped? v.type).toList)) e

/-- A variable whose type cannot be read. -/
structure Stop where
  /-- The variables before it. -/
  before : List VariableDefinition := []
  /-- The names that are escaped for it all the same. -/
  escaped : List String
  fault : TypeRef.Fault
  deriving Repr, Inhabited

/-- The first variable whose type cannot be read: its name cannot be looked up, or its property
would have to show it and cannot. -/
def stop? : List VariableDefinition → Option Stop
  | [] => none
  | v :: vs =>
    match v.type.heartFault?, v.type.shownFault? with
    | some fault, _ => some { escaped := [], fault }
    | none, some fault => some { escaped := [v.name], fault }
    | none, none => (stop? vs).map fun stop => { stop with before := v :: stop.before }

/-- The class of the variables. -/
def request (r : Resolver) (vs : List VariableDefinition) : ClassModel :=
  .flat "Request" (vs.map fun v => property r "variable" v.name v.type)

end OperationClasses.Input
