import OperationClasses.Schema.Default
import OperationClasses.Schema.Rules
import OperationClasses.Syntax.Parse

/-!
# Building schemas

A schema is built from the type system definitions of a document, after the rules have found
no fault in it. Then types are put together: first the values of enumerations and the scalars,
then the arguments of directives, then one by one, in the order of the document, the types with
interfaces, members and fields. The first one with a fault fails the whole.
-/
namespace OperationClasses.Schema

open Syntax

namespace Build

/-- The definitions of types that have an effect. -/
def typeDefinitions (doc : Document) : List TypeDefinition :=
  doc.filterMap fun d =>
    match d with
    | .typeSystem (.type t) _ =>
      if t.isExtension || Standard.typeNames.contains t.name then none else some t
    | _ => none

/-- The extensions of a type in their order. -/
def extensions (doc : Document) (name : String) : List TypeDefinition :=
  doc.filterMap fun d =>
    match d with
    | .typeSystem (.type t) _ => if t.isExtension && t.name = name then some t else none
    | _ => none

/-- A body with what an extension of the same kind adds to it. -/
def extendBody (body more : TypeBody) : TypeBody :=
  match body, more with
  | .object is fs, .object js gs => .object (is ++ js) (fs ++ gs)
  | .interface is fs, .interface js gs => .interface (is ++ js) (fs ++ gs)
  | .union ms, .union ns => .union (ms ++ ns)
  | .enum vs, .enum ws => .enum (vs ++ ws)
  | .input fs, .input gs => .input (fs ++ gs)
  | body, _ => body

/-- A type with its extensions merged in. -/
def merged (doc : Document) (d : TypeDefinition) : TypeDefinition :=
  { d with body := (extensions doc d.name).foldl (fun b e => extendBody b e.body) d.body }

def directiveDefinitions (doc : Document) : List DirectiveDefinition :=
  doc.filterMap fun d =>
    match d with
    | .typeSystem (.directive d) _ => some d
    | _ => none

def schemaDefinitions (doc : Document) : List SchemaDefinition :=
  doc.filterMap fun d =>
    match d with
    | .typeSystem (.schema d) _ => some d
    | _ => none

/-- The usual name of a root type. -/
def usualName : OperationKind → String
  | .query => "Query"
  | .mutation => "Mutation"
  | .subscription => "Subscription"

def kinds : List OperationKind := [.query, .mutation, .subscription]

/-- The root types. Without a schema definition, a type of the usual name is a root type. -/
def rootTypes (definitions : List SchemaDefinition) (types : List TypeDefinition) :
    List (OperationKind × String) :=
  let named := definitions.filter (!·.isExtension) ++ definitions.filter (·.isExtension)
  let given := fun kind => (named.flatMap (·.operationTypes)).reverse.lookup kind
  let isDefined := definitions.any (!·.isExtension)
  kinds.filterMap fun kind =>
    let usual := usualName kind
    if !isDefined && types.any (·.name = usual) then some (kind, usual)
    else (given kind).map (kind, ·)

/-- The root types, if they have to be named. -/
def namedRoots? (definitions : List SchemaDefinition) (types : List TypeDefinition) :
    Option (List (OperationKind × String)) :=
  let roots := rootTypes definitions types
  let isDescribed := definitions.any fun d => !d.isExtension && d.description?.isSome
  if isDescribed || roots.any (fun (kind, name) => name ≠ usualName kind) then some roots
  else none

section

variable (types : List TypeDefinition) (text : String)

/-- An argument gets its default, is asked for the reason of its deprecation, and has its type
checked. -/
def checkArgument (a : InputValueDefinition) : Except MemberError Unit := do
  discard (defaultOf types (fieldLookup types text) a)
  StandardArgument.reason.check text a.directives
  if !isInputType types a.type then throw ⟨[], .argumentType⟩

/-- The arguments of a field are looked at before its own type. -/
def checkField (f : FieldDefinition) : Except MemberError Unit := do
  f.arguments.forM (checkArgument types text)
  StandardArgument.reason.check text f.directives
  if !isOutputType types f.type then throw ⟨[], .fieldType⟩

/-- What is looked at before any field: the values of enumerations and the specification of a
scalar. -/
def checkLeaf (d : TypeDefinition) : Except MemberError Unit :=
  match d.body with
  | .enum vs => vs.forM fun v => StandardArgument.reason.check text v.directives
  | .scalar => StandardArgument.url.check text d.directives
  | _ => .ok ()

def checkType (d : TypeDefinition) : Except SchemaError Unit :=
  match d.body with
  | .object is fs | .interface is fs => do
    if !is.all (hasKind types .interface) then throw (.interfaces d.name)
    ((fs.forM (checkField types text)).mapError (·.inside d.name)).mapError .member
  | .union ms => if ms.all (hasKind types .object) then .ok () else .error (.members d.name)
  | .input _ => (discard (fieldLookup types text d)).mapError .member
  | .scalar | .enum _ => .ok ()

end

end Build

/-- Builds the schema of a document; what is not part of the type system has no effect. The text
is the one that the document was read from. -/
def build (text : String) (doc : Document) : Except SchemaError Schema := do
  let problems := Rules.problems doc
  if !problems.isEmpty then throw (.invalid problems)
  let types := (Build.typeDefinitions doc).map (Build.merged doc)
  let directives := Build.directiveDefinitions doc
  (types.forM (Build.checkLeaf text)).mapError .member
  ((directives.flatMap (·.arguments)).forM (Build.checkArgument types text)).mapError .member
  types.forM (Build.checkType types text)
  return {
    roots? := Build.namedRoots? (Build.schemaDefinitions doc) types
    directives := directives.filter (!Standard.directiveNames.contains ·.name)
    types }

end OperationClasses.Schema
