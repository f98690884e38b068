import OperationClasses.Config
import OperationClasses.Files.Tree
import OperationClasses.Hook
import OperationClasses.Log
import OperationClasses.Schema.Build

/-!
# Loading

Reading a schema, operation documents and a configuration from files. The files of a schema are
put together in the order of their paths before they are parsed; documents are parsed one by
one, and those without operations and fragments are passed over. What was noted before a failure
is kept.
-/
namespace OperationClasses

open Syntax

/-- Why something cannot be loaded. -/
inductive LoadError where
  | read (fault : FileTree.ReadFault)
  | noSchemaFiles (path : String)
  | parse (error : SyntaxError)
  | schema (error : SchemaError)
  | config (problems : List ConfigProblem)
  deriving Inhabited

def LoadError.message : LoadError → String
  | .read (.file fault) => fault.message
  | .read (.undecodable fault) => fault.message
  | .noSchemaFiles path => "No schema files found in " ++ path
  | .parse error => error.report
  | .schema error => error.report
  | .config problems => "\n".intercalate (problems.map (·.message))

/-- A result, with what was noted on the way. -/
structure Loaded (α : Type) where
  result : Except LoadError α
  log : List LogEntry

namespace Loading

/-- The endings of schema files. -/
def schemaEndings : List String := [".graphqls", ".graphql", ".gql"]

/-- The endings of operation documents. -/
def documentEndings : List String := [".graphql", ".gql"]

def readText (t : FileTree) (here : Place) (path : String) : Except LoadError String :=
  (t.readText here path).mapError .read

/-- Builds the schema of a text; the path is named when that fails. -/
def schemaOfText (path text : String) : Loaded Schema :=
  match Document.parse text with
  | .error e => ⟨.error (.parse e), [.brokenSchema path e.report]⟩
  | .ok doc =>
    match Schema.build text doc with
    | .error e => ⟨.error (.schema e), [.brokenSchema path e.report]⟩
    | .ok s => ⟨.ok s, []⟩

/-- Loads the schema from a file or from the files below a folder. -/
def schema (t : FileTree) (here : Place) (path : String) : Loaded Schema :=
  match t.collect here path schemaEndings with
  | .error f => ⟨.error (.read (.file f)), []⟩
  | .ok [] => ⟨.error (.noSchemaFiles path), []⟩
  | .ok files =>
    match files.mapM (readText t here) with
    | .error e => ⟨.error e, []⟩
    | .ok texts => schemaOfText path ("\n\n".intercalate texts)

/-- Loads one document; none when it is passed over. -/
def document (t : FileTree) (here : Place) (path : String) : Loaded (Option SourceDocument) :=
  match readText t here path with
  | .error e => ⟨.error e, []⟩
  | .ok text =>
    match Document.parse text with
    | .error e => ⟨.error (.parse e), [.brokenDocument (Path.name path) e.report]⟩
    | .ok doc =>
      if doc.any Definition.isExecutable then ⟨.ok (some ⟨path, doc⟩), []⟩
      else ⟨.ok none, [.skippedDocument path]⟩

/-- Loads documents one after another until one fails. -/
def documentsAt (t : FileTree) (here : Place) : List String → Loaded (List SourceDocument)
  | [] => ⟨.ok [], []⟩
  | path :: rest =>
    let first := document t here path
    match first.result with
    | .error e => ⟨.error e, first.log⟩
    | .ok d? =>
      let others := documentsAt t here rest
      ⟨others.result.map (d?.toList ++ ·), first.log ++ others.log⟩

/-- Loads the documents of a file or of the files below a folder. -/
def documents (t : FileTree) (here : Place) (path : String) : Loaded (List SourceDocument) :=
  match t.collect here path documentEndings with
  | .error f => ⟨.error (.read (.file f)), []⟩
  | .ok files => documentsAt t here files

/-- Loads a configuration; a detour in its path does not matter and is not reported. -/
def config (t : FileTree) (here : Place) (path : String) : Except LoadError Config := do
  (Config.ofText (← readText t here (Path.normal path))).mapError .config

end Loading

end OperationClasses
