import OperationClasses.CommandLine.Arguments
import OperationClasses.Files.Tree
import OperationClasses.Target.Registry

/-!
# Usage

What the program can be asked to do: to generate, to show its version, or to show how it is
used. Options of a command are checked in the order in which they are given, missing ones are
noticed after that, and positional arguments last. A request for help comes before all of these.
-/
namespace OperationClasses.CommandLine

/-- The two levels at which options are given. -/
inductive Level where
  | program | generate
  deriving Repr, DecidableEq

/-- The options of the program itself. -/
inductive ProgramOption where
  | version | help
  deriving Repr, DecidableEq

/-- The options of generation. -/
inductive GenerateOption where
  | schema | documents | output | target | config | namespaceName | header | templates | verbose
  | help
  deriving Repr, DecidableEq

def programForms : List (OptionForm ProgramOption) :=
  [⟨.version, "--version", none, false⟩, ⟨.help, "--help", none, false⟩]

def generateForms : List (OptionForm GenerateOption) :=
  [⟨.schema, "--schema", some 's', true⟩, ⟨.documents, "--documents", some 'd', true⟩,
    ⟨.output, "--output", some 'o', true⟩, ⟨.target, "--target", some 't', true⟩,
    ⟨.config, "--config", some 'c', true⟩, ⟨.namespaceName, "--namespace", none, true⟩,
    ⟨.header, "--header", none, true⟩, ⟨.templates, "--template-dir", none, true⟩,
    ⟨.verbose, "--verbose", some 'v', false⟩, ⟨.help, "--help", none, false⟩]

/-- The names of an option as a message shows them. -/
def GenerateOption.label (o : GenerateOption) : String :=
  match generateForms.find? (·.key = o) with
  | none => ""
  | some f =>
    Text.escaped f.long ++ match f.letter? with
      | some c => " / " ++ Text.escaped (String.ofList ['-', c])
      | none => ""

/-- A well-formed request for generation. -/
structure Options where
  schema : String
  documents : String
  output : String
  target? : Option String
  config? : Option String
  namespaceName? : Option String
  header? : Option String
  templates? : Option String
  verbose : Bool
  deriving Repr, DecidableEq

/-- Why arguments are no request. -/
inductive UsageError where
  | arguments (level : Level) (fault : ArgumentFault)
  | missingCommand
  | unknownCommand (name : String)
  | missingOption (o : GenerateOption)
  | notATarget (value : String)
  | nothingThere (o : GenerateOption) (path : String)
  | notAFolder (o : GenerateOption) (path : String)
  | extraArguments (args : List String)
  deriving Repr, DecidableEq

/-- What the program is asked to do. -/
inductive Request where
  | version
  | help (level : Level) (exitCode : Nat)
  | generate (options : Options)
  deriving Repr, DecidableEq

/-- The names of the targets that can be chosen. -/
def targetNames : List String := TargetRegistry.builtIn.names

/-- The commands of the program. -/
def commands : List String := ["generate"]

namespace UsageError

/-- What has to be there for an option. -/
def thing (o : GenerateOption) : String := if o = .templates then "Directory" else "Path"

def detail : UsageError → String
  | .arguments _ fault => fault.message
  | .missingCommand => "Missing command."
  | .unknownCommand name =>
    "No such command " ++ Text.escaped name ++ "." ++ question (Text.closest name commands)
  | .missingOption o => "Missing option " ++ o.label ++ "."
  | .notATarget value =>
    "Invalid value for " ++ GenerateOption.label .target ++ ": " ++ Text.escaped value ++
      " is not one of " ++ ", ".intercalate (targetNames.map Text.escaped) ++ "."
  | .nothingThere o path =>
    "Invalid value for " ++ o.label ++ ": " ++ thing o ++ " " ++ Text.escaped path ++
      " does not exist."
  | .notAFolder o path =>
    "Invalid value for " ++ o.label ++ ": " ++ thing o ++ " " ++ Text.escaped path ++
      " is a file."
  | .extraArguments args =>
    "Got unexpected extra argument" ++ (if args.length = 1 then "" else "s") ++ " (" ++
      " ".intercalate args ++ ")"

/-- The level whose usage is shown with an error; none for an option that lacks its value or
has one too many. -/
def level? : UsageError → Option Level
  | .arguments level (.unknown ..) => some level
  | .arguments _ _ => none
  | .missingCommand | .unknownCommand _ => some .program
  | _ => some .generate

end UsageError

/-- Why a request is refused: the arguments are none, or one of them is no path at all. -/
inductive Refusal where
  | usage (error : UsageError)
  | path (fault : FileFault)
  deriving Repr, DecidableEq

/-- Looks up the path that is the value of an option; none when nothing is there. -/
def lookUp (t : FileTree) (here : Place) (path : String) : Except Refusal (Option Place) :=
  match t.locate here path with
  | .ok p => .ok (some p)
  | .error .nullCharacter => .error (.path ⟨.nullCharacter, path⟩)
  | .error _ => .ok none

/-- Checks the value of an option. -/
def checkOption (t : FileTree) (here : Place) (o : GenerateOption) (value : String) :
    Except Refusal Unit := do
  match o with
  | .schema | .documents | .config =>
    if (← lookUp t here value).isNone then throw (.usage (.nothingThere o value))
  | .templates =>
    match ← lookUp t here value with
    | none => throw (.usage (.nothingThere o value))
    | some p => if t.isFile p then throw (.usage (.notAFolder o value))
  | .output => discard (lookUp t here value)
  | .target => if !targetNames.contains value then throw (.usage (.notATarget value))
  | .namespaceName | .header | .verbose | .help => return ()

/-- The value of an option that has to be given. -/
def required (a : Arguments GenerateOption) (o : GenerateOption) : Except Refusal String :=
  match a.value? o with
  | some value => .ok value
  | none => .error (.usage (.missingOption o))

/-- The request of a command to generate. -/
def readGenerate (t : FileTree) (here : Place) (args : List String) :
    Except Refusal Request := do
  let a ← (Arguments.read generateForms true args).mapError fun f =>
    .usage (.arguments .generate f)
  if a.has .help then return .help .generate 0
  a.keys.forM fun o => checkOption t here o ((a.value? o).getD "")
  let schema ← required a .schema
  let documents ← required a .documents
  let output ← required a .output
  if !a.positional.isEmpty then throw (.usage (.extraArguments a.positional))
  return .generate {
    schema, documents, output
    target? := a.value? .target
    config? := a.value? .config
    namespaceName? := a.value? .namespaceName
    header? := a.value? .header
    templates? := a.value? .templates
    verbose := a.has .verbose }

/-- The request of the program's own options; none when there are none. -/
def programRequest? (a : Arguments ProgramOption) : Option Request :=
  a.keys.head?.map fun o =>
    match o with
    | .version => .version
    | .help => .help .program 0

def readProgram (args : List String) : Except Refusal (Arguments ProgramOption) :=
  (Arguments.read programForms false args).mapError fun f => .usage (.arguments .program f)

/-- The request of the program's arguments. -/
def readRequest (t : FileTree) (here : Place) (args : List String) :
    Except Refusal Request := do
  if args.isEmpty then return .help .program 2
  let a ← readProgram args
  match programRequest? a with
  | some request => return request
  | none =>
    match a.positional with
    | [] => throw (.usage .missingCommand)
    | "generate" :: rest => readGenerate t here rest
    | name :: rest =>
      match programRequest? (← readProgram (name :: rest)) with
      | some request => return request
      | none => throw (.usage (.unknownCommand name))

end OperationClasses.CommandLine
