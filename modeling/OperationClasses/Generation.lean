import OperationClasses.Classes.Input
import OperationClasses.Classes.Response
import OperationClasses.Config
import OperationClasses.Hook
import OperationClasses.Layout.CSharp
import OperationClasses.Layout.Python
import OperationClasses.PythonModule.Check
import OperationClasses.Payload
import OperationClasses.Schema.Text

/-!
# Generation

A run takes a schema, documents and options to the generated text. First the classes of every
named operation are built, in the order of the documents; then they are laid out by the target's
template, headers are put before the text, and a text that has to be a module of its language is
checked. Anonymous operations are passed over. A run either fails or delivers the whole text.
-/
namespace OperationClasses

open Syntax

/-- Why nothing can be generated. -/
inductive GenerationError where
  | unknownTarget (name : String)
  | schema (fault : Schema.TextFault)
  | unknownKind (value : Json)
  | unspellable (fault : FormatFault)
  | unprintable (fault : Syntax.Print.Fault)
  | unreadable (fault : TypeRef.Fault)
  | endlessSelection
  | unknownTemplate (path : String)
  | nullCharacter
  | invalidModule (template : String)
  deriving Repr, Inhabited

namespace GenerationError

def message : GenerationError → String
  | unknownTarget name => "Unknown target: " ++ name
  | schema fault => fault.message
  | unknownKind value => "Invalid Operation Type " ++ value.display
  | unspellable fault => fault.message
  | unprintable fault => fault.message
  | unreadable fault => fault.message
  | endlessSelection => "maximum recursion depth exceeded"
  | unknownTemplate path => path
  | nullCharacter => "source code string cannot contain null bytes"
  | invalidModule template => "Generated invalid Python\nTemplate: " ++ template

end GenerationError

/-- All that a run needs. -/
structure Generator where
  schema : Schema
  documents : List SourceDocument
  config : Config
  target : Target
  hooks : Hooks

namespace Generator

/-- A generator for the target that the configuration names. -/
def create (registry : TargetRegistry) (schema : Schema) (documents : List SourceDocument)
    (config : Config) (hooks : Hooks) : Except GenerationError Generator :=
  match registry.get? config.target with
  | some target => .ok ⟨schema, documents, config, target, hooks⟩
  | none => .error (.unknownTarget config.target)

/-- The resolver of a run. -/
def resolver (g : Generator) : Resolver where
  target := g.target
  overrides := g.config.typeOverrides g.target
  reservedWords := g.config.reservedWords g.target
  schema? := some g.schema

/-- What one operation contributes to a run. -/
structure Contribution where
  operation? : Option OperationModel := none
  /-- The enumerations whose names its properties spell, perhaps repeatedly. -/
  enums : List String := []
  log : List LogEntry := []
  deriving Inhabited

/-- The kind of an operation. -/
def kindOf (o : Operation) : Except GenerationError OperationKind :=
  match o.kind with
  | .parsed kind => .ok kind
  | .given value =>
    match o.kind.kind? with
    | some kind => .ok kind
    | none => .error (.unknownKind value)

/-- The fields that a selection set of a parent type selects, with their types, and what is noted
about them. -/
def typedSelections (s : Schema) (fragments : Fragments) (parent? : Option String)
    (selections : List Syntax.Selection) :
    Except GenerationError (List TypedField × List LogEntry) :=
  match Selection.merge? fragments [selections] with
  | none => .error .endlessSelection
  | some level => .ok (level.annotate s parent?, level.notes s parent?)

/-- The fields of an operation's answer with their types, and what is noted about them. -/
def typedFields (s : Schema) (fragments : Fragments) (kind : OperationKind) (o : Operation) :
    Except GenerationError (List TypedField × List LogEntry) :=
  (typedSelections s fragments ((s.root? kind).map (·.name)) o.selections).map
    fun p => (p.1, Selection.rootNotes s kind ++ p.2)

/-- Fails with the first of several names that cannot be escaped. -/
def requireSpelled (r : Resolver) (names : List String) : Except GenerationError Unit :=
  match r.firstFault? names with
  | some fault => .error (.unspellable fault)
  | none => .ok ()

/-- Fails with the first name or type of the variables that cannot be escaped or read. The types of
a schema are read from its text, where nothing else can stand in their place. -/
def requireInputs (r : Resolver) (s : Schema) (vs : List VariableDefinition) :
    Except GenerationError Unit :=
  match Input.stop? vs with
  | none => requireSpelled r (Input.expandVariables r s vs {}).escaped
  | some stop => do
    requireSpelled r ((Input.expandVariables r s stop.before {}).escaped ++ stop.escaped)
    throw (.unreadable stop.fault)

/-- The text that is sent for an operation. -/
def payload (o : Operation) (fragments : Fragments) : Except GenerationError String :=
  match o.textFault? with
  | some fault => .error (.unprintable fault)
  | none => .ok (Payload.text o fragments)

/-- The classes of one operation of a document. -/
def contribution (r : Resolver) (s : Schema) (fragments : Fragments) (path : String)
    (o : Operation) : Except GenerationError Contribution := do
  let kind ← kindOf o
  match o.name? with
  | none => return { log := [.anonymousOperation kind path] }
  | some name =>
    let (fields, log) ← typedFields s fragments kind o
    requireSpelled r (Response.escapedInClass r fields)
    requireInputs r s o.variables
    let expansion := Input.expandVariables r s o.variables {}
    let source ← payload o fragments
    return {
      operation? := some {
        name := OperationModel.nameOf kind name
        kind
        operationName := name
        source
        response := Response.ofOperation r fields
        request := Input.request r o.variables
        inputClasses := expansion.classes
        documentPath := path }
      enums := Response.enumsMetAll r fields ++ expansion.enums
      log }

/-- What the operations built so far amount to. -/
structure Progress where
  operations : List OperationModel := []
  enums : List String := []
  log : List LogEntry := []

/-- Adds the contribution of an operation. -/
def Progress.add (p : Progress) (c : Contribution) : Progress :=
  match c.operation? with
  | none => { p with log := p.log ++ c.log }
  | some o =>
    let repeatedLog := if p.operations.any (·.name = o.name) then
      [LogEntry.repeatedOperation o.name o.documentPath] else []
    { operations := p.operations ++ [o]
      enums := c.enums.foldl (fun met name => meet met (some name)) p.enums
      log := p.log ++ c.log ++ repeatedLog }

/-- Adds the operations of a document. -/
def Progress.addDocument (r : Resolver) (s : Schema) (p : Progress) (d : SourceDocument) :
    Except GenerationError Progress :=
  let fragments := Fragments.ofDocument d.document
  (d.document.filterMap Definition.operation?).foldlM
    (fun p o => (contribution r s fragments d.path o).map p.add) p

/-- An enumeration of the schema. -/
def enumModel (r : Resolver) (d : TypeDefinition) : EnumModel :=
  ⟨r.escape d.name, d.enumValues.map fun v => ⟨r.escape v.name, v.name⟩⟩

/-- The names that are escaped for an enumeration. -/
def escapedInEnum (d : TypeDefinition) : List String := d.enumValues.map (·.name) ++ [d.name]

/-- Builds the classes of every named operation, with what is noted on the way. -/
def build (g : Generator) : Except GenerationError (Output × List LogEntry) := do
  match g.schema.textFault? with
  | some fault => throw (.schema fault)
  | none => pure ()
  let r := g.resolver
  let p ← (g.hooks.before g.documents).foldlM (Progress.addDocument r g.schema) {}
  let enums := p.enums.filterMap g.schema.enum?
  requireSpelled r (enums.flatMap escapedInEnum)
  return (⟨p.operations, enums.map (enumModel r)⟩, p.log)

/-- The usual name of the generated file. -/
def outputFilename (g : Generator) : String := Text.dropEnding (Text.behindLast '/' g.target.template) ".j2"

/-- The folders and the file that a template's path leads through. Empty and single-dot pieces
stay where they are; a path that goes up leads nowhere. -/
def templatePieces? (path : String) : Option (List String) :=
  let pieces := (Text.pieces '/' path.toList).map String.ofList
  if pieces.contains ".." then none else some (pieces.filter fun p => p ≠ "" && p ≠ ".")

/-- Whether a path leads to the template of a built-in target. -/
def leadsTo (path : String) (t : Target) : Bool :=
  (templatePieces? path).isSome && templatePieces? path = templatePieces? t.template

/-- The output as the target's template lays it out. A template of the user is plain text and
stands for itself. -/
def layOut (g : Generator) (template? : Option String) (output : Output) :
    Except GenerationError String :=
  match template? with
  | some text => .ok text
  | none =>
    if leadsTo g.target.template .csharp then .ok (Layout.CSharp.file g.config output)
    else if leadsTo g.target.template .python then .ok (Layout.Python.file output)
    else .error (.unknownTemplate g.target.template)

/-- The delivered text of an output. -/
def render (g : Generator) (template? : Option String) (output : Output) :
    Except GenerationError String := do
  let content := g.hooks.after (← g.layOut template? output)
  if g.target.isChecked then
    if content.contains '\x00' then throw .nullCharacter
    if !PythonModule.isModule content then throw (.invalidModule g.target.template)
  return content

/-- The delivered text of a run with the built-in templates. -/
def generate (g : Generator) : Except GenerationError String := do
  g.render none (← g.build).1

end Generator

end OperationClasses
