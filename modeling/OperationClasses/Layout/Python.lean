import OperationClasses.Classes.Model
import OperationClasses.Naming
import OperationClasses.Text.Blank
import OperationClasses.Text.Comment
import OperationClasses.Text.Quoted

/-!
# Python layout

A module with the enumerations, the input classes, and for each operation a class with the
classes of its answer and its variables, its text as an escaped literal, and a function that
sends it. Input classes stand at the level of the module, where a type may be named before its
class, so their annotations are quoted.
-/
namespace OperationClasses.Layout.Python

open Text

/-- A diagnostic behind a comment mark; nothing when there is none. -/
def comment (c? : Option String) : String :=
  match c? with
  | none => ""
  | some c => if c = "" then "" else "# " ++ commentLine c ++ "\n"

/-- What follows an annotation: the name it stands for, if the identifier is another one, and
the default of a property that may be missing. -/
def initial (p : Property) : String :=
  if p.name ≠ p.graphqlName then
    " = Field(" ++ (if p.required then "" else "default=None, ") ++ "alias=" ++
      escaped p.graphqlName ++ ")"
  else if p.required then "" else " = None"

def property (quoted : Bool) (p : Property) : String :=
  comment p.comment? ++ p.name ++ ": " ++ (if quoted then escaped p.type else p.type) ++
    initial p ++ "\n"

/-- A class around nested classes that are already written. -/
def classAround (quoted : Bool) (c? : Option String) (name : String) (nested : List String)
    (properties : List Property) : String :=
  comment c? ++ "class " ++ name ++ "(GraphQLModel):\n" ++
    String.join (nested.map fun n => indent 4 n ++ "\n") ++
    String.join (properties.map fun p => indent 4 (property quoted p)) ++
    (if nested.isEmpty && properties.isEmpty then "    pass\n" else "")

mutual

/-- A class with its nested classes. -/
def classText : ClassModel → String
  | .mk name properties classes c? => classAround false c? name (classTexts classes) properties

def classTexts : List ClassModel → List String
  | [] => []
  | c :: rest => classText c :: classTexts rest

end

/-- A class at the level of the module, whose own annotations are quoted. -/
def moduleClass (c : ClassModel) : String :=
  classAround true c.comment? c.name (classTexts c.classes) c.properties

def enumeration (e : EnumModel) : String :=
  "\n\nclass " ++ e.name ++ "(str, Enum):\n" ++
    String.join (e.members.map fun m =>
      "    " ++ m.name ++ " = " ++ escaped m.value ++ "\n")

/-- The name of the class around an operation. -/
def className (o : OperationModel) : String := Naming.pascalCase o.name

/-- The name of the function that sends an operation. -/
def helperName (o : OperationModel) : String := Naming.snakeCase o.name

def operation (o : OperationModel) : String :=
  let name := className o
  "\n\nclass " ++ name ++ ":\n    \"\"\"" ++ capitalizeText o.kind.text ++ " " ++
  o.operationName ++ ".\"\"\"\n\n" ++
  "    OPERATION_TYPE = " ++ escaped o.kind.text ++ "\n" ++
  "    OPERATION = " ++ escaped o.source ++ "\n\n" ++
  indent 4 (classText o.response) ++ "\n" ++
  indent 4 (classText o.request) ++ "\n" ++
  "    def __init__(self, client: NetworkClient):\n        self.client = client\n\n" ++
  "    async def execute(self, request: Request) -> Response:\n" ++
  "        return await self.client.send(self.OPERATION, request, " ++ name ++
  ".Response)\n\n\n" ++
  "async def " ++ helperName o ++ "(\n    client: NetworkClient, request: " ++ name ++
  ".Request\n) -> " ++ name ++ ".Response:\n    return await " ++ name ++
  "(client).execute(request)\n"

/-- What every module begins with. -/
def preamble : String :=
  "\"\"\"Generated GraphQL operations.\"\"\"\n\n" ++
  "from datetime import date, datetime\nfrom enum import Enum\n" ++
  "from typing import Any, List, Optional, Protocol, Type, TypeVar\n\n" ++
  "from pydantic import BaseModel, ConfigDict, Field\n\n" ++
  "TRes = TypeVar(\"TRes\")\n\n\n" ++
  "class NetworkClient(Protocol):\n" ++
  "    \"\"\"Sends an operation's source text with its variables.\"\"\"\n\n" ++
  "    async def send(self, query: str, variables: BaseModel, response_type: Type[TRes])" ++
  " -> TRes:\n        ...\n\n\n" ++
  "class GraphQLModel(BaseModel):\n    model_config = ConfigDict(populate_by_name=True)\n"

/-- Calls that let input classes refer to classes defined after them. -/
def rebuilds (classes : List ClassModel) : String :=
  if classes.isEmpty then ""
  else "\n\n" ++ String.join (classes.map fun c => c.name ++ ".model_rebuild()\n")

/-- The whole module. -/
def file (output : Output) : String :=
  let inputs := output.inputClasses
  preamble ++ String.join (output.enums.map enumeration) ++
    String.join (inputs.map fun c => "\n\n" ++ moduleClass c) ++
    String.join (output.operations.map operation) ++ rebuilds inputs

end OperationClasses.Layout.Python
