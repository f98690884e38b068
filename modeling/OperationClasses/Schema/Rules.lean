import OperationClasses.Schema.Problem
import OperationClasses.Schema.Standard
import OperationClasses.Syntax.Print

/-!
# Schema rules

The rules for the definitions of a schema: names are defined once, types and directives that are
used are defined, directives stand where they may and get the arguments they need. The
definitions are looked at in order, each from the outside in, and every fault is noted when it
is met. Operations and fragments in the same document are looked at too; in them the built-in
scalars count as unknown.
-/
namespace OperationClasses.Schema.Rules

open Syntax Standard

/-- What the document defines, wherever it does. -/
structure Context where
  types : List (String × TypeKind)
  directives : List DirectiveFacts

/-- What has been met so far. -/
structure Seen where
  schemas : Nat := 0
  roots : List OperationKind := []
  types : List String := []
  enumValues : List (String × String) := []
  fields : List (String × String) := []
  directives : List String := []
  schemaUses : List String := []
  typeUses : List (String × String) := []
  problems : List SchemaProblem := []

abbrev Check := StateM Seen

def report (p : SchemaProblem) : Check Unit := modify fun s => { s with problems := p :: s.problems }

/-- What the rules need to know about a defined directive. -/
def factsOf (d : DirectiveDefinition) : DirectiveFacts where
  name := d.name
  locations := d.locations
  arguments := d.arguments.map (·.name)
  required := d.arguments.filterMap fun a =>
    match a.type, a.default? with
    | .nonNull _, none => some (a.name, Print.typeRef a.type)
    | _, _ => none
  isRepeatable := d.isRepeatable

def contextOf (doc : Document) : Context where
  types := doc.filterMap fun d =>
    match d with
    | .typeSystem (.type t) _ => if t.isExtension then none else some (t.name, t.body.kind)
    | _ => none
  directives := (doc.filterMap fun d =>
    match d with
    | .typeSystem (.directive d) _ => some (factsOf d)
    | _ => none).reverse ++ Standard.directives

def Context.directive? (c : Context) (name : String) : Option DirectiveFacts :=
  c.directives.find? (·.name = name)

/-- The names that occur more than once, in the order of their first occurrence. -/
def repeated (names : List String) : List String :=
  names.eraseDups.filter fun n => 1 < names.count n

mutual

/-- Fields of an object value are given once. -/
def value : Value → Check Unit
  | .list items => values items
  | .object fields => objectFields [] fields
  | _ => pure ()

def values : List Value → Check Unit
  | [] => pure ()
  | v :: vs => do value v; values vs

def objectFields (known : List String) : List (String × Value) → Check Unit
  | [] => pure ()
  | (name, v) :: rest => do
    if known.contains name then report (.repeatedInputField name)
    value v
    objectFields (name :: known) rest

end

def givenArguments (args : List Argument) : Check Unit :=
  (repeated (args.map (·.name))).forM fun n => report (.repeatedGivenArgument n)

def argumentValues (args : List Argument) : Check Unit := args.forM fun a => value a.value

/-- A use of a directive at a location. -/
def directiveUse (c : Context) (location : String) (d : Directive) : Check Unit := do
  let facts? := c.directive? d.name
  match facts? with
  | none => report (.unknownDirective d.name)
  | some facts =>
    if !facts.locations.contains location then report (.misplacedDirective d.name location)
    d.arguments.forM fun a =>
      if facts.arguments.contains a.name then pure ()
      else report (.unknownArgument a.name d.name (Suggestion.suggest a.name facts.arguments))
  givenArguments d.arguments
  argumentValues d.arguments
  match facts? with
  | none => pure ()
  | some facts =>
    facts.required.forM fun (name, type) =>
      if d.arguments.any (·.name = name) then pure ()
      else report (.missingArgument d.name name type)

def directiveUses (c : Context) (location : String) (ds : List Directive) : Check Unit :=
  ds.forM (directiveUse c location)

/-- Directives that are not repeatable are used once; `before` holds those used before, and
the result those used up to here. -/
def usedOnce (c : Context) (before : List String) (ds : List Directive) : Check (List String) :=
  ds.foldlM (fun seen d => do
    match c.directive? d.name with
    | some facts =>
      if facts.isRepeatable then return seen
      if seen.contains d.name then
        report (.repeatedUse d.name)
        return seen
      return d.name :: seen
    | none => return seen) before

/-- Directives of a node that shares them with no other. -/
def usedOnceHere (c : Context) (ds : List Directive) : Check Unit := discard (usedOnce c [] ds)

/-- A name in the place of a type. -/
def typeName (c : Context) (inSchema : Bool) (name : String) : Check Unit :=
  let known := c.types.map (·.1)
  if known.contains name then pure ()
  else if inSchema then
    if Standard.typeNames.contains name then pure ()
    else report (.unknownType name (Suggestion.suggest name (Standard.typeNames ++ known)))
  else report (.unknownType name (Suggestion.suggest name known))

def typeRef (c : Context) (inSchema : Bool) (t : TypeRef) : Check Unit :=
  match t.name? with
  | some name => typeName c inSchema name
  | none => pure ()

mutual

def selection (c : Context) : Selection → Check Unit
  | .field _ _ args ds inner? _ => do
    usedOnceHere c ds
    givenArguments args
    argumentValues args
    directiveUses c "FIELD" ds
    match inner? with
    | some inner => selections c inner
    | none => pure ()
  | .spread _ ds _ => do
    usedOnceHere c ds
    directiveUses c "FRAGMENT_SPREAD" ds
  | .inline condition? ds inner => do
    usedOnceHere c ds
    match condition? with
    | some name => typeName c false name
    | none => pure ()
    directiveUses c "INLINE_FRAGMENT" ds
    selections c inner

def selections (c : Context) : List Selection → Check Unit
  | [] => pure ()
  | s :: rest => do selection c s; selections c rest

end

def variableDefinition (c : Context) (v : VariableDefinition) : Check Unit := do
  usedOnceHere c v.directives
  typeRef c false v.type
  v.default?.forM value
  directiveUses c "VARIABLE_DEFINITION" v.directives

def operationLocation (k : ClaimedKind) : String :=
  match k.kind? with
  | some .mutation => "MUTATION"
  | some .subscription => "SUBSCRIPTION"
  | _ => "QUERY"

def operation (c : Context) (o : Operation) : Check Unit := do
  usedOnceHere c o.directives
  o.variables.forM (variableDefinition c)
  directiveUses c (operationLocation o.kind) o.directives
  selections c o.selections

def fragment (c : Context) (f : Fragment) : Check Unit := do
  usedOnceHere c f.directives
  typeName c false f.condition
  directiveUses c "FRAGMENT_DEFINITION" f.directives
  selections c f.selections

def inputValue (c : Context) (location : String) (v : InputValueDefinition) : Check Unit := do
  usedOnceHere c v.directives
  typeRef c true v.type
  v.default?.forM value
  directiveUses c location v.directives

def fieldDefinition (c : Context) (f : FieldDefinition) : Check Unit := do
  usedOnceHere c f.directives
  f.arguments.forM (inputValue c "ARGUMENT_DEFINITION")
  typeRef c true f.type
  directiveUses c "FIELD_DEFINITION" f.directives

def enumValue (c : Context) (v : EnumValueDefinition) : Check Unit := do
  usedOnceHere c v.directives
  directiveUses c "ENUM_VALUE" v.directives

/-- Fields of a type are defined once, its extensions included. -/
def fieldNames (type : String) (names : List String) : Check Unit :=
  names.forM fun n => do
    if (← get).fields.contains (type, n) then report (.repeatedField type n)
    else modify fun s => { s with fields := (type, n) :: s.fields }

/-- Arguments of a field or directive are defined once. -/
def argumentNames (owner : String) (args : List InputValueDefinition) : Check Unit :=
  (repeated (args.map (·.name))).forM fun n => report (.repeatedArgument owner n)

def kindNoun : TypeKind → String
  | .scalar => "scalar"
  | .object => "object"
  | .interface => "interface"
  | .union => "union"
  | .enum => "enum"
  | .input => "input object"

def kindLocation : TypeKind → String
  | .scalar => "SCALAR"
  | .object => "OBJECT"
  | .interface => "INTERFACE"
  | .union => "UNION"
  | .enum => "ENUM"
  | .input => "INPUT_OBJECT"

/-- What a definition's name and members must not repeat. -/
def typeNamesOnce (d : TypeDefinition) : Check Unit := do
  if !d.isExtension then
    if (← get).types.contains d.name then report (.repeatedType d.name)
    else modify fun s => { s with types := d.name :: s.types }
  match d.body with
  | .enum vs =>
    vs.forM fun v => do
      if (← get).enumValues.contains (d.name, v.name) then
        report (.repeatedEnumValue d.name v.name)
      else modify fun s => { s with enumValues := (d.name, v.name) :: s.enumValues }
  | .object _ fs | .interface _ fs =>
    fieldNames d.name (fs.map (·.name))
    fs.forM fun f => argumentNames (d.name ++ "." ++ f.name) f.arguments
  | .input fs => fieldNames d.name (fs.map (·.name))
  | .scalar | .union _ => pure ()

/-- An extension extends a type of its kind that the document defines. -/
def extensionTarget (c : Context) (d : TypeDefinition) : Check Unit :=
  if !d.isExtension then pure ()
  else match c.types.reverse.lookup d.name with
    | some kind =>
      if kind = d.body.kind then pure ()
      else report (.extendsOther (kindNoun d.body.kind) d.name)
    | none => report (.extendsUndefined d.name (Suggestion.suggest d.name (c.types.map (·.1))))

def typeDefinition (c : Context) (d : TypeDefinition) : Check Unit := do
  typeNamesOnce d
  if !d.directives.isEmpty then
    let before := ((← get).typeUses.filter (·.1 = d.name)).map (·.2)
    let used ← usedOnce c before d.directives
    let fresh := used.filter (!before.contains ·)
    modify fun s => { s with typeUses := fresh.map (d.name, ·) ++ s.typeUses }
  extensionTarget c d
  match d.body with
  | .object is _ | .interface is _ => is.forM (typeName c true)
  | _ => pure ()
  directiveUses c (kindLocation d.body.kind) d.directives
  match d.body with
  | .object _ fs | .interface _ fs => fs.forM (fieldDefinition c)
  | .union ms => ms.forM (typeName c true)
  | .enum vs => vs.forM (enumValue c)
  | .input fs =>
    fs.forM (inputValue c (if d.isExtension then "ARGUMENT_DEFINITION" else "INPUT_FIELD_DEFINITION"))
  | .scalar => pure ()

def schemaDefinition (c : Context) (d : SchemaDefinition) : Check Unit := do
  if !d.isExtension then
    if 0 < (← get).schemas then report .severalSchemas
    modify fun s => { s with schemas := s.schemas + 1 }
  d.operationTypes.forM fun (kind, _) => do
    if (← get).roots.contains kind then report (.repeatedRoot kind)
    else modify fun s => { s with roots := kind :: s.roots }
  let used ← usedOnce c (← get).schemaUses d.directives
  modify fun s => { s with schemaUses := used }
  directiveUses c "SCHEMA" d.directives
  d.operationTypes.forM fun (_, name) => typeName c true name

def directiveDefinition (c : Context) (d : DirectiveDefinition) : Check Unit := do
  argumentNames ("@" ++ d.name) d.arguments
  if (← get).directives.contains d.name then report (.repeatedDirective d.name)
  else modify fun s => { s with directives := d.name :: s.directives }
  d.arguments.forM (inputValue c "ARGUMENT_DEFINITION")

def definition (c : Context) : Definition → Check Unit
  | .operation o => operation c o
  | .fragment f => fragment c f
  | .typeSystem (.schema d) _ => schemaDefinition c d
  | .typeSystem (.type d) _ => typeDefinition c d
  | .typeSystem (.directive d) _ => directiveDefinition c d

/-- The faults of a document's definitions, in the order in which they are met. -/
def problems (doc : Document) : List SchemaProblem :=
  ((doc.forM (definition (contextOf doc))).run {}).2.problems.reverse

end OperationClasses.Schema.Rules
