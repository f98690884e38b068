import OperationClasses.Json.Value

/-!
# Documents

The syntax trees of the query language. A definition that was read from a text keeps the
characters it was read from, from its first token to its last; fields, spreads, directives and
arguments know at which offset of the text they stand.

Type references also admit what a program can put in their place: a named type without a name or
with something else where its name belongs, and values that are no type reference at all.
-/
namespace OperationClasses

/-- A type about which nothing could be found out, with the place that asked and the reason. -/
structure Unresolved where
  provenance : String
  detail : String
  deriving Repr, DecidableEq, Inhabited

/-- What an unresolved type is called in running text. -/
def Unresolved.text : String := "unknown"

/-- What stands in the place of a type reference without being one. -/
inductive Stray where
  | value (v : Json)
  | unresolved (u : Unresolved)
  deriving Repr, Inhabited

/-- A reference to a type. -/
inductive TypeRef where
  | named (name : Option String)
  | list (element : TypeRef)
  | nonNull (inner : TypeRef)
  /-- A named type with something else where the node of its name belongs. -/
  | misnamed (inside : TypeRef)
  /-- A named type whose name is not a text but a table. -/
  | tableNamed (members : List (String × Json))
  /-- Something that is not a type reference. -/
  | other (stray : Stray)
  deriving Repr, Inhabited

namespace Syntax

/-- A literal or a variable. -/
inductive Value where
  | variable (name : String)
  | int (digits : String)
  | float (spelling : String)
  | string (text : String)
  | block (text : String)
  | boolean (value : Bool)
  | null
  | enum (name : String)
  | list (items : List Value)
  | object (fields : List (String × Value))
  deriving Repr, Inhabited

structure Argument where
  name : String
  value : Value
  /-- Where the value begins. -/
  offset : Nat
  deriving Repr, Inhabited

structure Directive where
  name : String
  arguments : List Argument
  /-- Where the directive begins. -/
  offset : Nat
  deriving Repr, Inhabited

/-- A text in front of a definition, written as a string or as a block string. -/
structure Description where
  text : String
  isBlock : Bool
  deriving Repr, DecidableEq, Inhabited

/-- One member of a selection set. -/
inductive Selection where
  | field (alias? : Option String) (name : String) (arguments : List Argument)
      (directives : List Directive) (selections? : Option (List Selection)) (offset : Nat)
  | spread (name : String) (directives : List Directive) (offset : Nat)
  | inline (condition? : Option String) (directives : List Directive)
      (selections : List Selection)
  deriving Repr, Inhabited

/-- A field by itself, with all that the text says of it. -/
structure FieldNode where
  alias? : Option String
  name : String
  arguments : List Argument
  directives : List Directive
  selections? : Option (List Selection)
  /-- Where the field begins. -/
  offset : Nat
  deriving Repr, Inhabited

/-- The key of the field in an answer. -/
def FieldNode.key (f : FieldNode) : String := f.alias?.getD f.name

/-- A spread by itself. -/
structure SpreadNode where
  name : String
  directives : List Directive
  /-- Where the spread begins. -/
  offset : Nat
  deriving Repr, Inhabited

/-- The three kinds of operations. -/
inductive OperationKind where
  | query | mutation | subscription
  deriving Repr, DecidableEq, Inhabited

def OperationKind.text : OperationKind → String
  | .query => "query"
  | .mutation => "mutation"
  | .subscription => "subscription"

def OperationKind.ofText? : String → Option OperationKind
  | "query" => some .query
  | "mutation" => some .mutation
  | "subscription" => some .subscription
  | _ => none

/-- The kind that an operation claims to have: the one its text says, or a value that was put in
its place. -/
inductive ClaimedKind where
  | parsed (kind : OperationKind)
  | given (value : Json)
  deriving Repr, Inhabited

/-- The kind that is claimed, if it is one of the three. -/
def ClaimedKind.kind? : ClaimedKind → Option OperationKind
  | .parsed kind => some kind
  | .given v => v.text?.bind OperationKind.ofText?

structure VariableDefinition where
  description? : Option Description
  name : String
  type : TypeRef
  default? : Option Value
  directives : List Directive
  deriving Repr, Inhabited

structure Operation where
  description? : Option Description
  kind : ClaimedKind
  name? : Option String
  «variables» : List VariableDefinition
  directives : List Directive
  selections : List Selection
  /-- The characters it was read from. -/
  source? : Option String
  deriving Repr, Inhabited

structure Fragment where
  description? : Option Description
  name : String
  condition : String
  directives : List Directive
  selections : List Selection
  /-- The characters it was read from. -/
  source? : Option String
  deriving Repr, Inhabited

structure InputValueDefinition where
  description? : Option Description
  name : String
  type : TypeRef
  default? : Option Value
  directives : List Directive
  deriving Repr, Inhabited

structure FieldDefinition where
  description? : Option Description
  name : String
  arguments : List InputValueDefinition
  type : TypeRef
  directives : List Directive
  deriving Repr, Inhabited

structure EnumValueDefinition where
  description? : Option Description
  name : String
  directives : List Directive
  deriving Repr, Inhabited

/-- What a type definition says beside the type's name. -/
inductive TypeBody where
  | scalar
  | object (interfaces : List String) (fields : List FieldDefinition)
  | interface (interfaces : List String) (fields : List FieldDefinition)
  | union (members : List String)
  | enum (values : List EnumValueDefinition)
  | input (fields : List InputValueDefinition)
  deriving Repr, Inhabited

/-- The six kinds of types. -/
inductive TypeKind where
  | scalar | object | interface | union | enum | input
  deriving Repr, DecidableEq, Inhabited

def TypeBody.kind : TypeBody → TypeKind
  | .scalar => .scalar
  | .object .. => .object
  | .interface .. => .interface
  | .union .. => .union
  | .enum .. => .enum
  | .input .. => .input

/-- The definition of a type, or its extension. -/
structure TypeDefinition where
  description? : Option Description
  isExtension : Bool
  name : String
  directives : List Directive
  body : TypeBody
  deriving Repr, Inhabited

/-- A schema definition, or its extension. -/
structure SchemaDefinition where
  description? : Option Description
  isExtension : Bool
  directives : List Directive
  operationTypes : List (OperationKind × String)
  deriving Repr, Inhabited

structure DirectiveDefinition where
  description? : Option Description
  name : String
  arguments : List InputValueDefinition
  isRepeatable : Bool
  locations : List String
  deriving Repr, Inhabited

/-- A definition of the type system, with the characters it was read from. -/
inductive TypeSystemDefinition where
  | schema (d : SchemaDefinition)
  | type (d : TypeDefinition)
  | directive (d : DirectiveDefinition)
  deriving Repr, Inhabited

/-- A top-level definition. -/
inductive Definition where
  | operation (o : Operation)
  | fragment (f : Fragment)
  | typeSystem (d : TypeSystemDefinition) (source? : Option String)
  deriving Repr, Inhabited

namespace Definition

def operation? : Definition → Option Operation
  | .operation o => some o
  | _ => none

def fragment? : Definition → Option Fragment
  | .fragment f => some f
  | _ => none

/-- Operations and fragments. -/
def isExecutable : Definition → Bool
  | .operation _ => true
  | .fragment _ => true
  | .typeSystem .. => false

/-- The characters the definition was read from. -/
def source? : Definition → Option String
  | .operation o => o.source?
  | .fragment f => f.source?
  | .typeSystem _ s => s

/-- Records the characters the definition was read from, or forgets them. -/
def withSource (s : Option String) : Definition → Definition
  | .operation o => .operation { o with source? := s }
  | .fragment f => .fragment { f with source? := s }
  | .typeSystem d _ => .typeSystem d s

/-- The defined name; none for anonymous operations and schema definitions. -/
def name? : Definition → Option String
  | .operation o => o.name?
  | .fragment f => some f.name
  | .typeSystem (.schema _) _ => none
  | .typeSystem (.type d) _ => some d.name
  | .typeSystem (.directive d) _ => some d.name

end Definition

/-- The definitions of a text in order. -/
abbrev Document := List Definition

end Syntax

end OperationClasses
