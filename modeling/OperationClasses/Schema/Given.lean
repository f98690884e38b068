import OperationClasses.Schema.Problem
import OperationClasses.Syntax.Print

/-!
# Arguments given to standard directives

A definition that is marked as deprecated may say why, a scalar may say where it is specified.
Both take a string. What is said is looked at while types are put together, by the standard
definitions of the two directives even where the document defines directives of these names.
-/
namespace OperationClasses.Schema

open Syntax

/-- A standard directive with its one argument. -/
structure StandardArgument where
  directive : String
  name : String
  type : String
  isRequired : Bool

namespace StandardArgument

def reason : StandardArgument := ⟨"deprecated", "reason", "String", false⟩

def url : StandardArgument := ⟨"specifiedBy", "url", "String!", true⟩

/-- What is wrong with the argument as it is given, and where. -/
def fault? (a : StandardArgument) (d : Directive) : Option (GivenFault × Nat) :=
  match d.arguments.reverse.find? (·.name = a.name) with
  | none => if a.isRequired then some (.missing a.name a.type, d.offset) else none
  | some given =>
    match given.value with
    | .null => if a.isRequired then some (.null a.name a.type, given.offset) else none
    | .string _ | .block _ => none
    | v => some (.invalid a.name (Print.value v), given.offset)

/-- Looks at the first use of the directive. -/
def check (a : StandardArgument) (text : String) (ds : List Directive) : Except MemberError Unit :=
  match (ds.find? (·.name = a.directive)).bind a.fault? with
  | some (fault, offset) => .error ⟨[], .given fault ⟨text, offset⟩⟩
  | none => .ok ()

end StandardArgument

end OperationClasses.Schema
