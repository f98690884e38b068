import OperationClasses.Syntax.Document

/-!
# Generated classes

What is generated, apart from how a language writes it: classes with nested classes and
properties, enumerations, and for each operation its text with the classes of its answer and of
its variables.
-/
namespace OperationClasses

open Syntax

/-- A property of a generated class. -/
structure Property where
  /-- The escaped identifier. -/
  name : String
  type : String
  /-- The response key, variable or field name it stands for. -/
  graphqlName : String
  required : Bool
  /-- Why the property has no better type. -/
  comment? : Option String
  deriving Repr, DecidableEq, Inhabited

/-- A property; one that stands for no name of its own stands for its identifier. -/
def Property.of (name type graphqlName : String) (required : Bool) (comment? : Option String) :
    Property :=
  ⟨name, type, if graphqlName = "" then name else graphqlName, required, comment?⟩

/-- A generated class: nested classes first, then properties. -/
inductive ClassModel where
  | mk (name : String) (properties : List Property) (classes : List ClassModel)
      (comment? : Option String)
  deriving Repr, Inhabited

namespace ClassModel

def name : ClassModel → String
  | mk n _ _ _ => n

def properties : ClassModel → List Property
  | mk _ ps _ _ => ps

def classes : ClassModel → List ClassModel
  | mk _ _ cs _ => cs

def comment? : ClassModel → Option String
  | mk _ _ _ c => c

@[simp] theorem name_mk (n ps cs c) : (mk n ps cs c).name = n := rfl

@[simp] theorem properties_mk (n ps cs c) : (mk n ps cs c).properties = ps := rfl

@[simp] theorem classes_mk (n ps cs c) : (mk n ps cs c).classes = cs := rfl

@[simp] theorem comment?_mk (n ps cs c) : (mk n ps cs c).comment? = c := rfl

/-- The same class under a comment. -/
def withComment (comment : String) : ClassModel → ClassModel
  | mk n ps cs _ => mk n ps cs (some comment)

/-- A class with properties only. -/
def flat (name : String) (properties : List Property) : ClassModel := mk name properties [] none

/-- The directly nested class of a name. -/
def findClass? (c : ClassModel) (name : String) : Option ClassModel :=
  c.classes.find? (·.name = name)

/-- The property with a given identifier or name in the schema. -/
def findProperty? (c : ClassModel) (name : String) : Option Property :=
  c.properties.find? fun p => p.name = name || p.graphqlName = name

end ClassModel

/-- A value of a generated enumeration. -/
structure EnumMember where
  /-- The escaped identifier. -/
  name : String
  /-- The value as the schema writes it. -/
  value : String
  deriving Repr, DecidableEq, Inhabited

/-- A generated enumeration. -/
structure EnumModel where
  name : String
  members : List EnumMember
  deriving Repr, DecidableEq, Inhabited

/-- All that is generated for one operation. -/
structure OperationModel where
  /-- The name of the class around the operation. -/
  name : String
  kind : OperationKind
  operationName : String
  /-- The text that is sent. -/
  source : String
  response : ClassModel
  request : ClassModel
  /-- The classes of the input types that the variables reach, dependencies first. -/
  inputClasses : List ClassModel
  documentPath : String
  deriving Repr, Inhabited

/-- The name of the class around an operation: its kind and its own name in one word. -/
def OperationModel.nameOf (kind : OperationKind) (operationName : String) : String :=
  kind.text ++ operationName

/-- All that is generated in one run. -/
structure Output where
  operations : List OperationModel
  enums : List EnumModel
  deriving Repr, Inhabited

namespace Output

/-- Adds a class unless one of its name is there. -/
def addClass (classes : List ClassModel) (c : ClassModel) : List ClassModel :=
  if classes.any (·.name = c.name) then classes else classes ++ [c]

/-- The input classes of all operations, each name once. -/
def inputClasses (o : Output) : List ClassModel :=
  (o.operations.flatMap (·.inputClasses)).foldl addClass []

/-- The first operation whose class has a given name. -/
def operation? (o : Output) (name : String) : Option OperationModel :=
  o.operations.find? (·.name = name)

end Output

end OperationClasses
