import OperationClasses.Classes.Model
import OperationClasses.Config
import OperationClasses.Text.Blank
import OperationClasses.Text.Comment
import OperationClasses.Text.Quoted

/-!
# C# layout

One namespace with a client interface, and for each operation a class that holds the classes of
its answer and its variables, its text as a verbatim literal, and a method that sends it. The
input classes stand inside the class of the variables.
-/
namespace OperationClasses.Layout.CSharp

open Text

/-- A diagnostic behind a comment mark; nothing when there is none. -/
def comment (margin : String) (c? : Option String) : String :=
  match c? with
  | none => ""
  | some c => if c = "" then "" else margin ++ "// " ++ commentLine c ++ "\n"

def property (p : Property) : String :=
  comment "    " p.comment? ++
    "    public " ++ p.type ++ " " ++ p.name ++ " \x7b get; set; \x7d\n"

/-- A class around nested classes that are already written. -/
def classAround (c? : Option String) (name : String) (nested : List String)
    (properties : List Property) : String :=
  comment "" c? ++ "public class " ++ name ++ "\n\x7b\n" ++
    String.join (nested.map fun n => indent 4 n ++ "\n") ++
    String.join (properties.map property) ++ "\x7d\n"

mutual

/-- A class with its nested classes. -/
def classText : ClassModel → String
  | .mk name properties classes c? => classAround c? name (classTexts classes) properties

def classTexts : List ClassModel → List String
  | [] => []
  | c :: rest => classText c :: classTexts rest

end

/-- A class with further classes nested before its own. -/
def classWith (extra : List ClassModel) (c : ClassModel) : String :=
  classAround c.comment? c.name (classTexts (extra ++ c.classes)) c.properties

def operation (client : String) (o : OperationModel) : String :=
  "\n    public class " ++ o.name ++ "\n    \x7b\n        public " ++ client ++
  " AppSyncClient \x7b get; \x7d\n\n" ++
  indent 8 (classText o.response) ++ "\n" ++
  indent 8 (classWith o.inputClasses o.request) ++ "\n" ++
  "        public string OperationType \x7b get; \x7d = \"" ++ o.kind.text ++ "\";\n" ++
  "        public string Operation \x7b get; \x7d = @\"" ++ verbatim o.source ++ "\";\n\n" ++
  "        public " ++ o.name ++ "(" ++ client ++ " appSyncClient)\n        \x7b\n" ++
  "            this.AppSyncClient = appSyncClient;\n        \x7d\n\n" ++
  "        public async Task<Response> Execute(Request request)\n        \x7b\n" ++
  "            return await this.AppSyncClient.SendRequestAsync<Request, Response>" ++
  "(this.Operation, request).ConfigureAwait(false);\n        \x7d\n    \x7d\n\n" ++
  "    public static class " ++ o.name ++ "AppSyncClientExtension\n    \x7b\n" ++
  "        public static async Task<" ++ o.name ++ ".Response> " ++ o.name ++ "(this " ++
  client ++ " client, " ++ o.name ++ ".Request request)\n        \x7b\n" ++
  "            return await new " ++ o.name ++
  "(client).Execute(request).ConfigureAwait(false);\n        \x7d\n    \x7d\n"

/-- The whole file. -/
def file (config : Config) (output : Output) : String :=
  "using System;\nusing System.Collections.Generic;\nusing System.Threading.Tasks;\n\n" ++
  "namespace " ++ config.namespaceName ++ "\n\x7b\n    public interface " ++
  config.clientInterface ++ "\n    \x7b\n" ++
  "        Task<TRes> SendRequestAsync<TVar, TRes>(string query, TVar variables);\n    \x7d\n" ++
  String.join (output.operations.map (operation config.clientInterface)) ++ "\x7d\n"

end OperationClasses.Layout.CSharp
