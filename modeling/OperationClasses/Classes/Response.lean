import OperationClasses.Classes.Model
import OperationClasses.Naming
import OperationClasses.Resolver
import OperationClasses.Selection.Typed

/-!
# Response classes

Every selection set becomes a class and every selected field a property of it. A nested class
shares a scope with the class around it, the properties beside it and its sibling classes, so it
takes the first name that is free there: the name of its type, the same behind the field's
response key, or the same with a number.
-/
namespace OperationClasses

/-- What owns a selection set. -/
inductive Owner where
  | operation
  | field (key : String)
  /-- Something that cannot own one, by its kind. -/
  | unsupported (kind : String)
  deriving Repr, DecidableEq

namespace Response

/-- The name of the class of an operation's own selection set. -/
def className : String := "Response"

/-- The name of a type, or of the field when the type has none. -/
def plainName (key : String) (type : Except Unresolved TypeRef) : String :=
  let typeName := match type with
    | .ok t => t.name?.getD ""
    | .error _ => ""
  if typeName = "" then Naming.pascalCase key else typeName

/-- The name of a type, or of the field when the type has none, as an identifier. -/
def baseName (r : Resolver) (key : String) (type : Except Unresolved TypeRef) : String :=
  r.escape (plainName key type)

/-- A name followed by the first number from two on that makes it free. There are more
candidates than names in use. -/
def numbered (used : List String) (base : String) : String :=
  (((List.range (used.length + 1)).map fun i => base ++ toString (i + 2)).find?
    (!used.contains ·)).getD base

/-- A free name for the class of a field. -/
def freeName (r : Resolver) (used : List String) (key : String)
    (type : Except Unresolved TypeRef) : String :=
  let base := baseName r key type
  if !used.contains base then base
  else
    let prefixed := Naming.pascalCase key ++ base
    if !used.contains prefixed then prefixed else numbered used base

/-- A property about whose type nothing is known. -/
def untypedProperty (r : Resolver) (key : String) (u : Unresolved) : Property :=
  .of (r.escape key) r.target.anyType key false
    (some (if u.detail = "" then Unresolved.text else u.detail))

/-- The property of a field without a selection set. -/
def leafProperty (r : Resolver) (key : String) (type : Except Unresolved TypeRef) : Property :=
  match type with
  | .error u => untypedProperty r key u
  | .ok t =>
    match r.resolve none "selection" t with
    | .error u => untypedProperty r key u
    | .ok spelled => .of (r.escape key) spelled key t.isRequired none

/-- The property of a field with a selection set, whose class has a given name. -/
def objectProperty (r : Resolver) (key : String) (type : Except Unresolved TypeRef)
    (className : String) : Property :=
  match type with
  | .error u => .of (r.escape key) (r.target.optional className) key false (some u.detail)
  | .ok t =>
    let spelled := match r.resolve (some className) "selection" t with
      | .ok s => s
      | .error _ => Unresolved.text
    .of (r.escape key) spelled key t.isRequired none

/-- The names that are taken in a class before any nested class is named. -/
def takenNames (r : Resolver) (name : String) (fields : List TypedField) : List String :=
  name :: fields.map fun f => r.escape f.key

/-- The comment of a class under an owner that cannot have one. -/
def unsupportedComment (kind : String) : String := "NOT SUPPORTED " ++ kind

/-- A class whose members are given. -/
def classOf (node : NodeKind) (name : String) (members : List Property × List ClassModel) :
    ClassModel :=
  match node with
  | .field => .mk name members.1 members.2 none
  | .fragmentSpread => .mk name members.1 members.2 (some (unsupportedComment node.text))

/-- The name of the class of a selection set under a node, given a free name. -/
def nestedName (node : NodeKind) (free : String) : String :=
  match node with
  | .field => free
  | .fragmentSpread => if free = "" then Naming.pascalCase node.text else free

/-- Properties and nested classes of a class in which the names `used` are taken. -/
def members (r : Resolver) (used : List String) :
    List TypedField → List Property × List ClassModel
  | [] => ([], [])
  | .leaf _ key type :: rest =>
    let others := members r used rest
    (leafProperty r key type :: others.1, others.2)
  | .object node key type children :: rest =>
    let free := freeName r used key type
    let name := nestedName node.kind free
    let nested := classOf node.kind name (members r (takenNames r name children) children)
    let others := members r (free :: used) rest
    (objectProperty r key type name :: others.1, nested :: others.2)

/-- The class of a selection set under a given name. -/
def classNamed (r : Resolver) (name : String) (fields : List TypedField) : ClassModel :=
  classOf .field name (members r (takenNames r name fields) fields)

/-- The class of an operation's own selection set. -/
def ofOperation (r : Resolver) (fields : List TypedField) : ClassModel :=
  classNamed r className fields

/-- The class of the selection set of an owner. Without a name, that of a field is named after
its type. -/
def ofOwner (r : Resolver) (owner : Owner) (fields : List TypedField)
    (type : Except Unresolved TypeRef) (name? : Option String) : ClassModel :=
  match owner with
  | .operation => ofOperation r fields
  | .field key => classNamed r (name?.getD (baseName r key type)) fields
  | .unsupported kind =>
    let name := name?.getD ""
    (classNamed r (if name = "" then Naming.pascalCase kind else name) fields).withComment
      (unsupportedComment kind)

mutual

/-- The enumerations whose names the properties of a field spell, in their order. -/
def enumsMet (r : Resolver) : TypedField → List String
  | .leaf _ _ type =>
    match type with
    | .ok t => (r.enumMet? t).toList
    | .error _ => []
  | .object _ _ _ children => enumsMetAll r children

def enumsMetAll (r : Resolver) : List TypedField → List String
  | [] => []
  | f :: rest => enumsMet r f ++ enumsMetAll r rest

end

mutual

/-- The names that are escaped for the property of a field and the class nested behind it, in
their order. -/
def escapedNames (r : Resolver) : TypedField → List String
  | .leaf _ key type =>
    key :: match type with
      | .ok t => (r.nameEscaped? t).toList
      | .error _ => []
  | .object _ key type children =>
    plainName key type :: (children.map (·.key) ++ escapedNamesAll r children ++ [key])

def escapedNamesAll (r : Resolver) : List TypedField → List String
  | [] => []
  | f :: rest => escapedNames r f ++ escapedNamesAll r rest

end

/-- The names that are escaped for a class: those of all its properties first. -/
def escapedInClass (r : Resolver) (fields : List TypedField) : List String :=
  fields.map (·.key) ++ escapedNamesAll r fields

/-- The names that are escaped for the class of an owner. -/
def escapedForOwner (r : Resolver) (owner : Owner) (fields : List TypedField)
    (type : Except Unresolved TypeRef) (name? : Option String) : List String :=
  let own := match owner, name? with
    | .field key, none => [plainName key type]
    | _, _ => []
  own ++ escapedInClass r fields

end Response

end OperationClasses
