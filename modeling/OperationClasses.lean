import OperationClasses.Archive.Bytes
import OperationClasses.Archive.Bzip2
import OperationClasses.Archive.Extract
import OperationClasses.Archive.Extract.Fault
import OperationClasses.Archive.Extract.Tape
import OperationClasses.Archive.Extract.Zip
import OperationClasses.Archive.Gzip
import OperationClasses.Archive.Inflate
import OperationClasses.Archive.Lzma
import OperationClasses.Archive.PrefixCode
import OperationClasses.Archive.Tar
import OperationClasses.Archive.Unpacking
import OperationClasses.Archive.Zip
import OperationClasses.Classes.Input
import OperationClasses.Classes.Model
import OperationClasses.Classes.Response
import OperationClasses.CommandLine.Arguments
import OperationClasses.CommandLine.Help
import OperationClasses.CommandLine.Run
import OperationClasses.CommandLine.Usage
import OperationClasses.Config
import OperationClasses.Delivery
import OperationClasses.Files.Fault
import OperationClasses.Files.Path
import OperationClasses.Files.Removal
import OperationClasses.Files.Tree
import OperationClasses.Files.Writing
import OperationClasses.Generation
import OperationClasses.Hook
import OperationClasses.Json.Reader
import OperationClasses.Json.Value
import OperationClasses.Layout.CSharp
import OperationClasses.Layout.Python
import OperationClasses.Loading
import OperationClasses.Log
import OperationClasses.Main
import OperationClasses.Naming
import OperationClasses.Number.Binary
import OperationClasses.Number.Shortest
import OperationClasses.Payload
import OperationClasses.Proofs.Generation.Contribution
import OperationClasses.Proofs.Input.Dependencies
import OperationClasses.Proofs.Naming.Names
import OperationClasses.Proofs.Payload.Carrying
import OperationClasses.Proofs.Payload.Regeneration
import OperationClasses.Proofs.Payload.Text
import OperationClasses.Proofs.Payload.Uses
import OperationClasses.Proofs.Response.ClassNames
import OperationClasses.Proofs.Response.Comments
import OperationClasses.Proofs.Response.Heart
import OperationClasses.Proofs.Response.Members
import OperationClasses.Proofs.Response.Paths
import OperationClasses.Proofs.Result
import OperationClasses.Proofs.Selection.CollectFields
import OperationClasses.Proofs.Selection.Expansion
import OperationClasses.Proofs.Selection.Grouping
import OperationClasses.Proofs.Selection.LeadTypes
import OperationClasses.Proofs.Selection.Occurrences
import OperationClasses.Proofs.Selection.Reach
import OperationClasses.Proofs.Selection.Termination
import OperationClasses.Proofs.Selection.Thinning
import OperationClasses.Proofs.Selection.TypedLevels
import OperationClasses.Proofs.Syntax.Definitions
import OperationClasses.Proofs.Syntax.Grammar
import OperationClasses.Proofs.Syntax.Leftovers
import OperationClasses.Proofs.Syntax.Lookahead
import OperationClasses.Proofs.Syntax.Pieces
import OperationClasses.Proofs.Syntax.Rereading
import OperationClasses.Proofs.Syntax.Slices
import OperationClasses.Proofs.Syntax.Unlocated
import OperationClasses.PythonModule.Check
import OperationClasses.PythonModule.Expression
import OperationClasses.PythonModule.Formatted
import OperationClasses.PythonModule.Identifier
import OperationClasses.PythonModule.Lexer
import OperationClasses.PythonModule.Literal
import OperationClasses.PythonModule.Pattern
import OperationClasses.PythonModule.Statement
import OperationClasses.PythonModule.Token
import OperationClasses.Resolver
import OperationClasses.Schema.Basic
import OperationClasses.Schema.Build
import OperationClasses.Schema.Default
import OperationClasses.Schema.Given
import OperationClasses.Schema.Kind
import OperationClasses.Schema.Problem
import OperationClasses.Schema.Rules
import OperationClasses.Schema.Standard
import OperationClasses.Schema.Suggestion
import OperationClasses.Schema.Text
import OperationClasses.Selection.Flatten
import OperationClasses.Selection.Merge
import OperationClasses.Selection.Typed
import OperationClasses.Syntax.Document
import OperationClasses.Syntax.Error
import OperationClasses.Syntax.Lexer
import OperationClasses.Syntax.Parse
import OperationClasses.Syntax.Position
import OperationClasses.Syntax.Print
import OperationClasses.Syntax.Token
import OperationClasses.Target.Basic
import OperationClasses.Target.EscapeFormat
import OperationClasses.Target.FormatFault
import OperationClasses.Target.FormatSpec
import OperationClasses.Target.Registry
import OperationClasses.Text.Blank
import OperationClasses.Text.Case
import OperationClasses.Text.CaseTables
import OperationClasses.Text.CharacterName
import OperationClasses.Text.CharacterNames.AtoB
import OperationClasses.Text.CharacterNames.C
import OperationClasses.Text.CharacterNames.DtoG
import OperationClasses.Text.CharacterNames.HtoL
import OperationClasses.Text.CharacterNames.MtoR
import OperationClasses.Text.CharacterNames.StoZ
import OperationClasses.Text.CodePage
import OperationClasses.Text.Comment
import OperationClasses.Text.Digit
import OperationClasses.Text.Hex
import OperationClasses.Text.Pieces
import OperationClasses.Text.Printable
import OperationClasses.Text.Quoted
import OperationClasses.Text.Similarity
import OperationClasses.Text.Utf8
import OperationClasses.TypeRef
import OperationClasses.Proofs.Input.Expansion
import OperationClasses.Proofs.Input.Order
import OperationClasses.Proofs.Response.Scopes
import OperationClasses.Proofs.Generation.Run
import OperationClasses.Proofs.Generation.Concatenation
import OperationClasses.Proofs.Naming.Annotations
import OperationClasses.Proofs.Schema.InputTypes
import OperationClasses.Proofs.Response.Identifiers
import OperationClasses.Proofs.Generation.Closed
import OperationClasses.Proofs.Generation.Filtering
import OperationClasses.Proofs.Text.Literals
import OperationClasses.Proofs.Layout.Payloads
import OperationClasses.Proofs.Naming.Twins
import OperationClasses.Proofs.Schema.FieldNames
import OperationClasses.Proofs.Response.Keys
import OperationClasses.Proofs.Generation.PropertyNames
import OperationClasses.Proofs.Naming.Readings
import OperationClasses.Proofs.Generation.Shadowing
import OperationClasses.Proofs.Generation.TopLevelNames
import OperationClasses.Proofs.Generation.Enumerations
import OperationClasses.Proofs.Generation.LegalIdentifiers
import OperationClasses.Proofs.Generation.RequiredProperties
import OperationClasses.Proofs.Schema.RootTypes
import OperationClasses.Proofs.Selection.UndefinedSpreads
import OperationClasses.Proofs.Naming.Wrappers
import OperationClasses.Proofs.Generation.Diagnostics
import OperationClasses.Proofs.Generation.Nullability
import OperationClasses.Proofs.Input.Hoisting
import OperationClasses.Proofs.Generation.HoistedInputs
import OperationClasses.Proofs.Generation.KeptInputs
import OperationClasses.Proofs.Generation.MemberNames
import OperationClasses.Proofs.Naming.Unresolvable
import OperationClasses.Proofs.Naming.Signatures
import OperationClasses.Proofs.Naming.Conversion
import OperationClasses.Proofs.Text.Lines
import OperationClasses.Proofs.Text.Comments
import OperationClasses.Proofs.Layout.ClassLines
import OperationClasses.Proofs.Layout.Indentation
import OperationClasses.Proofs.Layout.Braces
import OperationClasses.Proofs.Layout.Rereading
import OperationClasses.Proofs.Selection.Derivations
import OperationClasses.Proofs.Payload.FirstUse
import OperationClasses.Proofs.Files.Paths
import OperationClasses.Proofs.Files.Writing
import OperationClasses.Proofs.Files.Confinement
import OperationClasses.Proofs.Archive.Confinement
import OperationClasses.Proofs.Archive.Recognition
import OperationClasses.Proofs.CommandLine.Session
import OperationClasses.Proofs.CommandLine.Outcome
import OperationClasses.Proofs.CommandLine.Delivery
import OperationClasses.Proofs.CommandLine.Archives
import OperationClasses.Proofs.Schema.Building
import OperationClasses.Proofs.Syntax.WellNamed
import OperationClasses.Proofs.Generation.ReadNames
import OperationClasses.Proofs.CommandLine.Loading
