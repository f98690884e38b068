import OperationClasses.Log
import OperationClasses.Resolver
import OperationClasses.Selection.Merge

/-!
# Typed selections

The fields of an answer with the types that the schema declares for them. A field is looked up
in the type of the fragment around it, or else in the type of the field that owns its selection
set. What cannot be looked up is marked as unresolved, with the reason, and does not stop
anything else.
-/
namespace OperationClasses

open Syntax

/-- The kinds of nodes that a typed field can come from. -/
inductive NodeKind where
  | field | fragmentSpread
  deriving Repr, DecidableEq, Inhabited

def NodeKind.text : NodeKind → String
  | .field => "field"
  | .fragmentSpread => "fragment_spread"

/-- What a typed field comes from. -/
inductive Node where
  | field (node : FieldNode)
  | fragmentSpread (node : SpreadNode)
  deriving Repr, Inhabited

namespace Node

def kind : Node → NodeKind
  | field _ => .field
  | fragmentSpread _ => .fragmentSpread

def name : Node → String
  | field node => node.name
  | fragmentSpread node => node.name

end Node

/-- A field of the answer with its type. -/
inductive TypedField where
  | leaf (node : Node) (key : String) (type : Except Unresolved TypeRef)
  | object (node : Node) (key : String) (type : Except Unresolved TypeRef)
      (children : List TypedField)
  deriving Inhabited

namespace TypedField

def node : TypedField → Node
  | leaf n _ _ => n
  | object n _ _ _ => n

/-- The response key. -/
def key : TypedField → String
  | leaf _ k _ => k
  | object _ k _ _ => k

/-- The name of the field in the schema. -/
def name (f : TypedField) : String := f.node.name

def type : TypedField → Except Unresolved TypeRef
  | leaf _ _ t => t
  | object _ _ t _ => t

/-- The fields selected below; none for a leaf. -/
def children? : TypedField → Option (List TypedField)
  | leaf .. => none
  | object _ _ _ cs => some cs

end TypedField

namespace Selection

/-- The type of `__typename`. -/
def typenameType : TypeRef := .nonNull (.named (some "String"))

/-- Why the type of a field is unknown. -/
inductive FieldFault where
  | unknownParent (field : String)
  | notComposite (type : String)
  | undeclared (field type : String)
  | undefinedFragment (name : String)
  deriving Repr, DecidableEq

def FieldFault.unresolved : FieldFault → Unresolved
  | .unknownParent field => ⟨"field", "type of the parent of field '" ++ field ++ "' is unknown"⟩
  | .notComposite type =>
    ⟨"field", "type '" ++ type ++ "' is not an object or interface type"⟩
  | .undeclared field type =>
    ⟨"field", "field '" ++ field ++ "' not found in type '" ++ type ++ "'"⟩
  | .undefinedFragment name =>
    ⟨"fragment", "fragment '" ++ name ++ "' is not defined in the document"⟩

/-- The type of a field of a parent type. -/
def fieldType (s : Schema) (parent? : Option String) (field : String) :
    Except FieldFault TypeRef :=
  if field = "__typename" then .ok typenameType
  else match parent? with
    | none => .error (.unknownParent field)
    | some parent =>
      match s.fields? parent with
      | none => .error (.notComposite parent)
      | some fs =>
        match fs.find? (·.name = field) with
        | none => .error (.undeclared field parent)
        | some f => .ok f.type

/-- The parent type of the fields below a field. -/
def childParent? (type : Except FieldFault TypeRef) : Option String :=
  match type with
  | .ok t => t.name?
  | .error _ => none

/-- A type, or the account of why there is none. -/
def accounted (type : Except FieldFault TypeRef) : Except Unresolved TypeRef :=
  type.mapError (·.unresolved)

mutual

/-- Types a field of the answer; `parent?` is the type that owns its level. -/
def annotate (s : Schema) (parent? : Option String) : Merged → TypedField
  | .leaf node condition? =>
    .leaf (.field node) node.key (accounted (fieldType s (condition?.or parent?) node.name))
  | .object node condition? _ members =>
    let type := fieldType s (condition?.or parent?) node.name
    .object (.field node) node.key (accounted type) (annotateAll s (childParent? type) members)
  | .undefinedSpread node =>
    .leaf (.fragmentSpread node) node.name
      (.error (FieldFault.undefinedFragment node.name).unresolved)

def annotateAll (s : Schema) (parent? : Option String) : List Merged → List TypedField
  | [] => []
  | m :: rest => annotate s parent? m :: annotateAll s parent? rest

end

/-- What is noted about the type of a field. -/
def fieldNotes (type : Except FieldFault TypeRef) : List LogEntry :=
  match type with
  | .error (.undeclared field parent) => [.unknownField field parent]
  | _ => []

mutual

/-- What is noted while a field of the answer is typed. -/
def notes (s : Schema) (parent? : Option String) : Merged → List LogEntry
  | .leaf node condition? => fieldNotes (fieldType s (condition?.or parent?) node.name)
  | .object node condition? spreads members =>
    let type := fieldType s (condition?.or parent?) node.name
    fieldNotes type ++ spreads.map .undefinedFragment ++ notesAll s (childParent? type) members
  | .undefinedSpread _ => []

def notesAll (s : Schema) (parent? : Option String) : List Merged → List LogEntry
  | [] => []
  | m :: rest => notes s parent? m ++ notesAll s parent? rest

end

/-- Types a level of fields. -/
def Level.annotate (s : Schema) (parent? : Option String) (l : Level) : List TypedField :=
  annotateAll s parent? l.members

/-- What is noted while a level of fields is typed. -/
def Level.notes (s : Schema) (parent? : Option String) (l : Level) : List LogEntry :=
  l.spreads.map .undefinedFragment ++ notesAll s parent? l.members

/-- What is noted when an operation has no root type. -/
def rootNotes (s : Schema) (kind : OperationKind) : List LogEntry :=
  if (s.root? kind).isSome then [] else [.missingRoot kind]

end Selection

end OperationClasses
