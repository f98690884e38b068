import OperationClasses.Syntax.Document
import OperationClasses.Syntax.Error
import OperationClasses.Text.Hex
import OperationClasses.TypeRef

/-!
# Printing

The standard layout of a document: two columns of indentation per level, one selection or field
to a line, arguments on lines of their own when the line would pass 80 characters. A definition
that remembers the characters it was read from has those as its text instead.
-/
namespace OperationClasses

namespace Syntax.Print

open Text

/-- A text with something around it; nothing when it is empty. -/
def wrap (before text after : String) : String :=
  if text = "" then "" else before ++ text ++ after

/-- The texts that are not empty, with a separator between any two. -/
def join (separator : String) (texts : List String) : String :=
  separator.intercalate (texts.filter (· ≠ ""))

/-- Every line two columns to the right. -/
def shift (text : String) : String :=
  wrap "  " (String.ofList (text.toList.flatMap fun c =>
    if c = '\n' then ['\n', ' ', ' '] else [c])) ""

/-- Lines in braces. -/
def braces (texts : List String) : String :=
  wrap "\x7b\n" (shift (join "\n" texts)) "\n\x7d"

/-- How one character is written inside a string. -/
def stringChar (c : Char) : List Char :=
  if c = '"' then ['\\', '"']
  else if c = '\\' then ['\\', '\\']
  else if c = '\x08' then ['\\', 'b']
  else if c = '\x0c' then ['\\', 'f']
  else if c = '\n' then ['\\', 'n']
  else if c = '\r' then ['\\', 'r']
  else if c = '\t' then ['\\', 't']
  else if c.toNat < 0x20 || (0x7f ≤ c.toNat && c.toNat < 0xa0) then
    '\\' :: 'u' :: hexFixed true 4 c.toNat
  else [c]

def string (text : String) : String :=
  "\"" ++ String.ofList (text.toList.flatMap stringChar) ++ "\""

/-- Puts a backslash before each three quotes in a row. -/
def escapeQuotes : List Char → List Char
  | '"' :: '"' :: '"' :: rest => '\\' :: '"' :: '"' :: '"' :: escapeQuotes rest
  | c :: rest => c :: escapeQuotes rest
  | [] => []

def isIndented (s : List Char) : Bool :=
  match s with
  | c :: _ => c = ' ' || c = '\t'
  | [] => false

/-- A block string. It takes several lines when its text does, when it is longer than 70
characters, or when a quote or backslash at its end would run into the closing quotes. -/
def block (text : String) : String :=
  let escaped := escapeQuotes text.toList
  let ls := sourceLines escaped
  let single := ls.length == 1
  let leadingBreak := !single && (ls.drop 1).all fun l => l.isEmpty || isIndented l
  let endsInQuotes := ("\\\"\"\"".toList).isSuffixOf escaped
  let endsInQuote := ['"'].isSuffixOf text.toList && !endsInQuotes
  let trailingBreak := endsInQuote || ['\\'].isSuffixOf text.toList
  let several := !single || text.length > 70 || trailingBreak || leadingBreak || endsInQuotes
  let opening := if (several && !(single && isIndented text.toList)) || leadingBreak then "\n"
    else ""
  let closing := if several || trailingBreak then "\n" else ""
  "\"\"\"" ++ opening ++ String.ofList escaped ++ closing ++ "\"\"\""

def description (d : Option Description) : String :=
  match d with
  | none => ""
  | some d => (if d.isBlock then block d.text else string d.text) ++ "\n"

mutual

def value : Value → String
  | .variable name => "$" ++ name
  | .int digits => digits
  | .float spelling => spelling
  | .string text => string text
  | .block text => block text
  | .boolean true => "true"
  | .boolean false => "false"
  | .null => "null"
  | .enum name => name
  | .list items => "[" ++ join ", " (values items) ++ "]"
  | .object fields => "\x7b" ++ join ", " (objectFields fields) ++ "\x7d"

def values : List Value → List String
  | [] => []
  | v :: vs => value v :: values vs

def objectFields : List (String × Value) → List String
  | [] => []
  | (name, v) :: rest => (name ++ ": " ++ value v) :: objectFields rest

end

/-- A type reference; a name that is missing leaves its place empty. -/
def typeRef : TypeRef → String
  | .named name => name.getD ""
  | .list e => "[" ++ typeRef e ++ "]"
  | .nonNull t => typeRef t ++ "!"
  | .misnamed inside => typeRef inside
  | .tableNamed members => (Json.object members).literal
  | .other _ => ""

def argument (a : Argument) : String := a.name ++ ": " ++ value a.value

def directive (d : Directive) : String :=
  "@" ++ d.name ++ wrap "(" (join ", " (d.arguments.map argument)) ")"

def directives (ds : List Directive) : String := join " " (ds.map directive)

/-- The longest line that holds all arguments of a field. -/
def lineLimit : Nat := 80

/-- A field's name with its arguments. -/
def fieldHead (label : String) (args : List Argument) : String :=
  let line := label ++ wrap "(" (join ", " (args.map argument)) ")"
  if line.length ≤ lineLimit then line
  else label ++ wrap "(\n" (shift (join "\n" (args.map argument))) "\n)"

mutual

def selection : Selection → String
  | .field alias? name args ds inner? _ =>
    join " " [fieldHead (wrap "" (alias?.getD "") ": " ++ name) args, directives ds,
      match inner? with
      | some inner => braces (selections inner)
      | none => ""]
  | .spread name ds _ => "..." ++ name ++ wrap " " (directives ds) ""
  | .inline condition? ds inner =>
    join " " ["...", wrap "on " (condition?.getD "") "", directives ds, braces (selections inner)]

def selections : List Selection → List String
  | [] => []
  | s :: rest => selection s :: selections rest

end

def initial (v : Option Value) (before : String) : String :=
  match v with
  | some v => before ++ value v
  | none => ""

def variableDefinition (v : VariableDefinition) : String :=
  description v.description? ++ "$" ++ v.name ++ ": " ++ typeRef v.type ++ initial v.default? " = " ++
    wrap " " (directives v.directives) ""

/-- Items in parentheses: on one line unless one of them takes several. -/
def parenthesized (texts : List String) : String :=
  if texts.any (·.toList.contains '\n') then wrap "(\n" (shift (join "\n" texts)) "\n)"
  else wrap "(" (join ", " texts) ")"

def kind (k : ClaimedKind) : String := (k.kind?.map (·.text)).getD ""

def operation (o : Operation) : String :=
  let vs := o.variables.map variableDefinition
  let variableText :=
    if vs.any (·.toList.contains '\n') then wrap "(\n" (join "\n" vs) "\n)"
    else wrap "(" (join ", " vs) ")"
  let head := description o.description? ++
    join " " [kind o.kind, o.name?.getD "" ++ variableText, directives o.directives]
  (if head = "query" then "" else head ++ " ") ++ braces (selections o.selections)

def fragment (f : Fragment) : String :=
  description f.description? ++ "fragment " ++ f.name ++ " on " ++ f.condition ++ " " ++
    wrap "" (directives f.directives) " " ++ braces (selections f.selections)

def inputValue (v : InputValueDefinition) : String :=
  description v.description? ++
    join " " [v.name ++ ": " ++ typeRef v.type, initial v.default? "= ", directives v.directives]

def fieldDefinition (f : FieldDefinition) : String :=
  description f.description? ++ f.name ++ parenthesized (f.arguments.map inputValue) ++ ": " ++
    typeRef f.type ++ wrap " " (directives f.directives) ""

def enumValue (v : EnumValueDefinition) : String :=
  description v.description? ++ join " " [v.name, directives v.directives]

def implements (interfaces : List String) : String :=
  wrap "implements " (join " & " interfaces) ""

/-- A type's keyword. -/
def keyword : TypeKind → String
  | .scalar => "scalar"
  | .object => "type"
  | .interface => "interface"
  | .union => "union"
  | .enum => "enum"
  | .input => "input"

def typeDefinition (d : TypeDefinition) : String :=
  let (interfaces, rest) := match d.body with
    | .scalar => ("", "")
    | .object is fs => (implements is, braces (fs.map fieldDefinition))
    | .interface is fs => (implements is, braces (fs.map fieldDefinition))
    | .union ms => ("", wrap "= " (join " | " ms) "")
    | .enum vs => ("", braces (vs.map enumValue))
    | .input fs => ("", braces (fs.map inputValue))
  description d.description? ++
    join " " [if d.isExtension then "extend" else "", keyword d.body.kind, d.name, interfaces,
      directives d.directives, rest]

def schemaDefinition (d : SchemaDefinition) : String :=
  description d.description? ++
    join " " [if d.isExtension then "extend" else "", "schema", directives d.directives,
      braces (d.operationTypes.map fun (k, name) => k.text ++ ": " ++ name)]

def directiveDefinition (d : DirectiveDefinition) : String :=
  description d.description? ++ "directive @" ++ d.name ++
    parenthesized (d.arguments.map inputValue) ++ (if d.isRepeatable then " repeatable" else "") ++
    " on " ++ join " | " d.locations

def definition : Definition → String
  | .operation o => operation o
  | .fragment f => fragment f
  | .typeSystem (.schema d) _ => schemaDefinition d
  | .typeSystem (.type d) _ => typeDefinition d
  | .typeSystem (.directive d) _ => directiveDefinition d

/-- Why a definition cannot be laid out. -/
inductive Fault where
  /-- A value stands where a node is needed. -/
  | notANode (shown : String)
  /-- The kind of an operation was replaced by a value of the named sort. -/
  | notAKind (sort : String)
  deriving Repr, DecidableEq, Inhabited

def Fault.message : Fault → String
  | .notANode shown => "Invalid AST Node: " ++ shown ++ "."
  | .notAKind sort => "'" ++ sort ++ "' object has no attribute 'value'"

mutual

/-- The first value that is looked at as a node. Lists are looked into, missing values passed
over. -/
def strayValue? : Json → Option Json
  | .null => none
  | .array items => strayAmong? items
  | v => some v

def strayAmong? : List Json → Option Json
  | [] => none
  | v :: rest => (strayValue? v).or (strayAmong? rest)

end

def strayFault? : Stray → Option Fault
  | .value v => (strayValue? v).map fun v => .notANode v.excerpt
  | .unresolved _ => some (.notANode "<UnresolvedType instance>")

def typeFault? : TypeRef → Option Fault
  | .named _ => none
  | .list e => typeFault? e
  | .nonNull t => typeFault? t
  | .misnamed inside => typeFault? inside
  | .tableNamed _ => none
  | .other stray => strayFault? stray

def kindFault? : ClaimedKind → Option Fault
  | .parsed _ => none
  | .given v => some (.notAKind v.sort)

/-- Why an operation has no layout: first its variables' types are looked at, then its kind. -/
def operationFault? (o : Operation) : Option Fault :=
  (o.variables.findSome? fun v => typeFault? v.type).or (kindFault? o.kind)

end Syntax.Print

namespace Syntax

/-- The characters the definition was read from, or its standard layout. -/
def Definition.text (d : Definition) : String := d.source?.getD (Print.definition d)

/-- The characters the operation was read from, or its standard layout. -/
def Operation.text (o : Operation) : String := o.source?.getD (Print.operation o)

/-- Why the operation has no text: it was not read from characters and has no layout. -/
def Operation.textFault? (o : Operation) : Option Print.Fault :=
  match o.source? with
  | some _ => none
  | none => Print.operationFault? o

/-- Why the definition has no text. -/
def Definition.textFault? : Definition → Option Print.Fault
  | .operation o => o.textFault?
  | .fragment _ => none
  | .typeSystem .. => none

/-- The characters the fragment was read from, or its standard layout. -/
def Fragment.text (f : Fragment) : String := f.source?.getD (Print.fragment f)

end Syntax

end OperationClasses
