import OperationClasses.CommandLine.Usage

/-!
# Help

The texts that say how the program is used, at most eighty columns wide.
-/
namespace OperationClasses.CommandLine

namespace Level

/-- The program's name and the command's. -/
def path : Level → String
  | .program => "main"
  | .generate => "main generate"

/-- The first line of every usage text. -/
def usage : Level → String
  | .program => "Usage: main [OPTIONS] COMMAND [ARGS]..."
  | .generate => "Usage: main generate [OPTIONS]"

end Level

/-- What the program prints about itself. -/
def versionLine : String := "main, version 0.1.0"

def programHelp : List String :=
  [Level.usage .program,
    "",
    "  GraphQL operation code generator.",
    "",
    "  Generate typed request/response classes from GraphQL operations.",
    "",
    "Options:",
    "  --version  Show the version and exit.",
    "  --help     Show this message and exit.",
    "",
    "Commands:",
    "  generate  Generate operation classes from GraphQL documents."]

def generateHelp : List String :=
  [Level.usage .generate,
    "",
    "  Generate operation classes from GraphQL documents.",
    "",
    "  Examples:",
    "",
    "      gql-opgen generate -s ./schema.graphql -d ./operations -o ./Operations.cs",
    "",
    "      gql-opgen generate -s ./schema -d ./operations -o ./operations.py -t",
    "      python",
    "",
    "      gql-opgen generate -s ./schema.tgz -d ./ops -o ./Ops.cs -c codegen.json",
    "",
    "Options:",
    "  -s, --schema PATH             Path to GraphQL schema file, directory, or",
    "                                archive (.zip, .tar.gz, .tgz).  [required]",
    "  -d, --documents PATH          Path to an operation document or a directory of",
    "                                .graphql/.gql files.  [required]",
    "  -o, --output PATH             Output file for the generated code (e.g.,",
    "                                Operations.cs).  [required]",
    "  -t, --target [csharp|python]  Output language (overrides the config file;",
    "                                default: csharp).",
    "  -c, --config PATH             JSON config file with netKeywords/netTypes and",
    "                                other options.",
    "  --namespace TEXT              Namespace for C# output (default:",
    "                                AppSync.Operations).",
    "  --header TEXT                 Header text prepended to the generated file.",
    "  --template-dir DIRECTORY      Directory with templates overriding the built-in",
    "                                ones.",
    "  -v, --verbose                 Enable verbose output.",
    "  --help                        Show this message and exit."]

/-- The lines of a help text. -/
def helpLines : Level → List String
  | .program => programHelp
  | .generate => generateHelp

/-- The lines that tell a usage error. -/
def UsageError.lines (e : UsageError) : List String :=
  (match e.level? with
    | some level => [level.usage, "Try '" ++ level.path ++ " --help' for help.", ""]
    | none => []) ++ ["Error: " ++ e.detail]

end OperationClasses.CommandLine
