import OperationClasses.Archive.Extract
import OperationClasses.CommandLine.Help
import OperationClasses.Files.Removal
import OperationClasses.Generation
import OperationClasses.Loading

/-!
# Running the program

A run reads a tree of files and ends with lines of output, an exit code and a tree. The generated
file is written when its whole text is there. Before that the tree changes by what a schema that
comes as an archive is unpacked to, and by nothing else; the folder for it is removed in the end,
if nothing keeps it from being removed.
-/
namespace OperationClasses.CommandLine

/-- Where a line of output goes. -/
inductive Stream where
  | output | errors
  deriving Repr, DecidableEq

/-- Text that a run prints, with a line break behind it. -/
structure OutputLine where
  stream : Stream
  text : String
  deriving Repr, DecidableEq

/-- Why a run breaks off. -/
inductive Failure where
  | archive (fault : Archive.Fault)
  | load (error : LoadError)
  | generation (error : GenerationError)
  | file (fault : FileFault)
  deriving Inhabited

def Failure.message : Failure → String
  | .archive fault => fault.message
  | .load error => error.message
  | .generation error => error.message
  | .file fault => fault.message

/-- What a run has done so far. -/
structure Transcript where
  files : FileTree
  lines : List OutputLine := []
  /-- Whether there is a folder with an archive in it that has to be removed in the end. -/
  hasUnpacked : Bool := false
  /-- How many such folders remain because an archive could not be unpacked into them. -/
  leftovers : Nat := 0

/-- A part of a run: it may print, and it may break off. -/
abbrev Session := ExceptT Failure (StateM Transcript)

namespace Session

def print (stream : Stream) (texts : List String) : Session Unit :=
  modify fun t => { t with lines := t.lines ++ texts.map (⟨stream, ·⟩) }

def say (text : String) : Session Unit := print .output [text]

/-- Prints what only a verbose run says. -/
def detail (verbose : Bool) (texts : List String) : Session Unit :=
  print .output (if verbose then texts else [])

/-- Prints the entries that are worth it: all of them with their levels and channels when the
run is verbose, otherwise the messages of the more serious ones. -/
def log (verbose : Bool) (entries : List LogEntry) : Session Unit :=
  print .errors
    (if verbose then entries.map (·.line)
    else (entries.filter fun e => e.level ≠ .debug).map (·.message))

/-- Goes on with a result or breaks off. -/
def accept {ε α : Type} (cause : ε → Failure) (result : Except ε α) : Session α :=
  match result with
  | .ok x => pure x
  | .error e => throw (cause e)

/-- Goes on with what was loaded, after printing what was noted. -/
def acceptLoaded {α : Type} (verbose : Bool) (loaded : Loaded α) : Session α := do
  log verbose loaded.log
  accept .load loaded.result

/-- Changes the tree, and breaks off if that does not succeed. -/
def change (attempt : FileTree → FileTree.Attempt) : Session Unit := do
  let (files, fault?) := attempt (← get).files
  modify fun t => { t with files }
  match fault? with
  | none => pure ()
  | some fault => throw (.file fault)

end Session

/-- The surroundings of a run. -/
structure Surroundings where
  files : FileTree
  /-- Where relative paths begin. -/
  here : Place
  /-- Where an archive can be unpacked. -/
  temporary : Place

/-- The tree that a run finds. The system shows the place where relative paths begin as a link, in
a folder that nothing can be added to. -/
def Surroundings.tree (s : Surroundings) : FileTree where
  entries := s.files.entries ++ [(["proc", "self", "cwd"], .link s.here.text)]
  limits := s.files.limits ++
    [(["proc"], { write := false }), (["proc", "self"], { write := false })]

/-- The place of the generated file. -/
def outputPlace (s : Surroundings) (o : Options) : Place := s.tree.resolve s.here o.output

/-- The place of the schema. -/
def schemaPlace (s : Surroundings) (o : Options) : Place := s.tree.resolve s.here o.schema

/-- Whether the schema is treated as an archive. -/
def isPacked (s : Surroundings) (o : Options) : Bool :=
  s.tree.isFile (schemaPlace s o) && Archive.isArchiveName (schemaPlace s o).name

/-- Unpacks the archive at a place. -/
def unpackSchema (s : Surroundings) (place : Place) : Session Unit := do
  match Archive.unpack (← get).files [] place.text s.temporary with
  | (.ok (), files) => modify fun t => { t with files, hasUnpacked := true }
  | (.error fault, files) =>
    modify fun t =>
      { t with files, leftovers := t.leftovers + if fault.leavesFolder then 1 else 0 }
    throw (.archive fault)

/-- The path to load the schema from; an archive is unpacked first. -/
def schemaSource (s : Surroundings) (o : Options) : Session String := do
  let place := schemaPlace s o
  if isPacked s o then
    Session.say ("Extracting archive " ++ place.name ++ "...")
    unpackSchema s place
    Session.detail o.verbose ["  Extracted to: " ++ s.temporary.text]
    return s.temporary.text
  else return place.text

/-- A value that is not empty. -/
def nonEmpty? (value? : Option String) : Option String := value?.filter (· ≠ "")

/-- The configuration of a run: the file's, with what the options say instead. -/
def configOf (t : FileTree) (s : Surroundings) (o : Options) : Except LoadError Config := do
  let c ← match o.config? with
    | some path => Loading.config t s.here path
    | none => pure {}
  let c := match nonEmpty? o.target? with
    | some target => { c with target }
    | none => c
  return match nonEmpty? o.namespaceName? with
    | some namespaceName => { c with namespaceName }
    | none => c

/-- The hooks of a run. -/
def hooksOf (o : Options) : Hooks :=
  match nonEmpty? o.header? with
  | some text => Hooks.addHeader {} ⟨text⟩
  | none => {}

/-- The template of the user for a target, if there is one. -/
def templateOf (t : FileTree) (s : Surroundings) (o : Options) (target : Target) :
    Except LoadError (Option String) :=
  match o.templates? with
  | none => .ok none
  | some folder =>
    let path := Path.join folder target.template
    match t.find? s.here path with
    | none => .ok none
    | some p => if t.isFile p then some <$> Loading.readText t s.here path else .ok none

/-- Generates the text of a run from what is in a tree; the number is that of its operations. -/
def textFrom (t : FileTree) (s : Surroundings) (o : Options) (schemaPath : String) :
    Session (String × Nat) := do
  let config ← Session.accept .load (configOf t s o)
  Session.detail o.verbose ["Schema: " ++ schemaPath,
    "Documents: " ++ (t.resolve s.here o.documents).text,
    "Output: " ++ (outputPlace s o).text, "Target: " ++ config.target]
  Session.say "Loading schema..."
  let schema ← Session.acceptLoaded o.verbose (Loading.schema t s.here schemaPath)
  Session.say "Parsing documents..."
  let documents ← Session.acceptLoaded o.verbose (Loading.documents t s.here o.documents)
  Session.detail o.verbose ["  Documents: " ++ toString documents.length]
  Session.say "Generating code..."
  let g ← Session.accept .generation
    (Generator.create .builtIn schema documents config (hooksOf o))
  let (output, log) ← Session.accept .generation g.build
  Session.log o.verbose log
  let template? ← Session.accept .load (templateOf t s o g.target)
  let text ← Session.accept .generation (g.render template? output)
  Session.detail o.verbose ["  Operations: " ++ toString output.operations.length,
    "  Input classes: " ++ toString output.inputClasses.length,
    "  Lines: " ++ toString (Text.lineCount text)]
  return (text, output.operations.length)

/-- Generates the text of a run. -/
def generateText (s : Surroundings) (o : Options) : Session (String × Nat) := do
  let schemaPath ← schemaSource s o
  textFrom (← get).files s o schemaPath

/-- Generates and writes the file of a run. -/
def generateFile (s : Surroundings) (o : Options) : Session Unit := do
  let (text, count) ← generateText s o
  let place := outputPlace s o
  Session.change fun t => t.writeTextAt place text
  Session.say ("Done! Generated " ++ toString count ++ " operations in " ++ place.text)

/-- How a run ends. -/
structure Outcome where
  exitCode : Nat
  lines : List OutputLine
  files : FileTree
  leftovers : Nat
  failure? : Option Failure

/-- The outcome without the folder that an archive was unpacked into. A folder that cannot be
removed is a failure of its own. -/
def Outcome.cleared (o : Outcome) (temporary : Place) : Outcome :=
  match o.files.removalFault? temporary with
  | some fault =>
    { o with exitCode := 1, leftovers := o.leftovers + 1, failure? := some (.file fault) }
  | none => { o with files := o.files.without temporary }

/-- The end of a run that generates. -/
def generateOutcome (s : Surroundings) (o : Options) : Outcome :=
  let (result, t) := (generateFile s o).run.run { files := s.tree }
  let outcome : Outcome := match result with
    | .error failure => ⟨1, t.lines, t.files, t.leftovers, some failure⟩
    | .ok () => ⟨0, t.lines, t.files, t.leftovers, none⟩
  if t.hasUnpacked then outcome.cleared s.temporary else outcome

/-- Runs the program. -/
def run (s : Surroundings) (args : List String) : Outcome :=
  let printed := fun (exitCode : Nat) (stream : Stream) (lines : List String) =>
    (⟨exitCode, lines.map (⟨stream, ·⟩), s.tree, 0, none⟩ : Outcome)
  match readRequest s.tree s.here args with
  | .error (.usage e) => printed 2 .errors e.lines
  | .error (.path fault) => ⟨1, [], s.tree, 0, some (.file fault)⟩
  | .ok .version => printed 0 .output [versionLine]
  | .ok (.help level exitCode) =>
    printed exitCode (if exitCode = 0 then .output else .errors) (helpLines level)
  | .ok (.generate o) => generateOutcome s o

end OperationClasses.CommandLine
