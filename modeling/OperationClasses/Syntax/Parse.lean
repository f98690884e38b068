import OperationClasses.Syntax.Document
import OperationClasses.Syntax.Error
import OperationClasses.Syntax.Lexer

/-!
# Parsing steps

A parsing step takes the tokens still to be read and returns what it made of the first of them
with the tokens after those, or the cause of a failure with its offset. A place where the text
is not made of tokens fails as soon as a step looks at it, not before.

Repeating steps carry a bound on how many tokens they may still read; the number of tokens left
is always enough. Steps that nest carry the number of levels that may still be opened: selection
sets, lists, objects and list types share it, and a document that needs more is refused.
-/
namespace OperationClasses.Syntax

/-- The cause of a failure and the offset at which it was noticed. -/
abbrev Fault := SyntaxCause × Nat

abbrev Parse := StateT (List Token) (Except Fault)

namespace Parse

def fail {α : Type} (cause : SyntaxCause) (place : Token) : Parse α :=
  fun _ => .error (cause, place.start)

/-- A token, unless the text breaks off there. -/
def sound (t : Token) : Parse Token :=
  match t.lexeme with
  | .broken f => fail (.lexical f) t
  | _ => pure t

/-- The next token. -/
def current : Parse Token := do
  match ← get with
  | [] => pure ⟨.finish, 0, 0⟩
  | t :: _ => sound t

/-- The token after the next one. -/
def second : Parse Token := do
  match ← get with
  | _ :: t :: _ => sound t
  | [t] => sound t
  | [] => pure ⟨.finish, 0, 0⟩

/-- Moves past the next token. -/
def advance : Parse Unit := modify List.tail

/-- The number of tokens left. -/
def bound : Parse Nat := do return (← get).length

def unexpected {α : Type} (t : Token) : Parse α := fail (.unexpected t.lexeme) t

def isNext (m : Mark) : Parse Bool := do return (← current).lexeme == .mark m

def expectMark (m : Mark) : Parse Unit := do
  let t ← current
  if t.lexeme == .mark m then advance else fail (.expected (.mark m) t.lexeme) t

/-- Moves past a mark if it is next. -/
def skipMark (m : Mark) : Parse Bool := do
  if ← isNext m then advance; return true else return false

def expectKeyword (word : String) : Parse Unit := do
  let t ← current
  if t.lexeme == .name word then advance else fail (.expected (.keyword word) t.lexeme) t

/-- Moves past a word if it is next. -/
def skipKeyword (word : String) : Parse Bool := do
  if (← current).lexeme == .name word then advance; return true else return false

def name : Parse String := do
  let t ← current
  match t.lexeme with
  | .name s => advance; return s
  | found => fail (.expected .name found) t

/-- Items up to a closing mark, perhaps none. -/
def itemsUntil {α : Type} (close : Mark) (item : Parse α) : Nat → Parse (List α)
  | 0 => do unexpected (← current)
  | n + 1 => do
    if ← skipMark close then return []
    let x ← item
    let xs ← itemsUntil close item n
    return x :: xs

/-- At least one item between two marks. -/
def bracketed {α : Type} (opening close : Mark) (n : Nat) (item : Parse α) : Parse (List α) := do
  expectMark opening
  let x ← item
  let xs ← itemsUntil close item n
  return x :: xs

/-- Nothing, or at least one item between two marks. -/
def optionalBracketed {α : Type} (opening close : Mark) (n : Nat) (item : Parse α) :
    Parse (List α) := do
  if ← isNext opening then bracketed opening close n item else return []

/-- At least one item, with a mark between any two. -/
def separated {α : Type} (mark : Mark) (item : Parse α) : Nat → Parse (List α)
  | 0 => do unexpected (← current)
  | n + 1 => do
    let x ← item
    if ← skipMark mark then
      let xs ← separated mark item n
      return x :: xs
    else return [x]

/-- At least one item, with a mark between any two and perhaps before the first. -/
def delimited {α : Type} (mark : Mark) (n : Nat) (item : Parse α) : Parse (List α) := do
  discard (skipMark mark)
  separated mark item n

/-- Items while a mark is next. -/
def whileNext {α : Type} (mark : Mark) (item : Parse α) : Nat → Parse (List α)
  | 0 => do unexpected (← current)
  | n + 1 => do
    if ← isNext mark then
      let x ← item
      let xs ← whileNext mark item n
      return x :: xs
    else return []

/-- A variable behind its dollar sign, which constants must not contain. -/
def variableName (isConst : Bool) : Parse String := do
  let dollar ← current
  expectMark .dollar
  if isConst then
    match (← current).lexeme with
    | .name s => fail (.variableInConstant s) dollar
    | _ => unexpected dollar
  else name

/-- How many levels may be open at one place of a document. -/
def levelLimit : Nat := 200

/-- A value, given how one inside a list or an object is read; not at all when no further level
may be opened. -/
def valueWithin (isConst : Bool) (nested? : Option (Parse Value)) : Parse Value := do
  let t ← current
  match t.lexeme with
  | .mark .openBracket =>
    match nested? with
    | none => fail .tooDeep t
    | some nested =>
      advance
      return .list (← itemsUntil .closeBracket nested (← bound))
  | .mark .openBrace =>
    match nested? with
    | none => fail .tooDeep t
    | some nested =>
      advance
      return .object (← itemsUntil .closeBrace (do
        let key ← name
        expectMark .colon
        return (key, ← nested)) (← bound))
  | .int s => advance; return .int s
  | .float s => advance; return .float s
  | .string s => advance; return .string s
  | .block s => advance; return .block s
  | .name "true" => advance; return .boolean true
  | .name "false" => advance; return .boolean false
  | .name "null" => advance; return .null
  | .name s => advance; return .enum s
  | .mark .dollar => return .variable (← variableName isConst)
  | _ => unexpected t

/-- A value; constants contain no variables. -/
def value (isConst : Bool) : Nat → Parse Value
  | 0 => valueWithin isConst none
  | room + 1 => valueWithin isConst (some (value isConst room))

def argument (isConst : Bool) (room : Nat) : Parse Argument := do
  let key ← name
  expectMark .colon
  let place ← current
  return ⟨key, ← value isConst room, place.start⟩

def arguments (isConst : Bool) (room : Nat) : Parse (List Argument) := do
  optionalBracketed .openParen .closeParen (← bound) (argument isConst room)

def directive (isConst : Bool) (room : Nat) : Parse Directive := do
  let place ← current
  expectMark .at
  let s ← name
  return ⟨s, ← arguments isConst room, place.start⟩

def directivesWithin (isConst : Bool) (room : Nat) : Parse (List Directive) := do
  whileNext .at (directive isConst room) (← bound)

/-- Directives outside of selection sets. -/
def directives (isConst : Bool) : Parse (List Directive) := directivesWithin isConst levelLimit

/-- A default value, if there is one. -/
def initial : Parse (Option Value) := do
  if ← skipMark .equals then some <$> value true levelLimit else pure none

/-- The element of a list type, given how it is read; not at all when no further level may be
opened. -/
def elementWithin (nested? : Option (Parse TypeRef)) : Parse TypeRef := do
  match nested? with
  | none => fail .tooDeep (← current)
  | some nested =>
    let element ← nested
    expectMark .closeBracket
    return .list element

/-- A type reference, given how the element of a list type is read. -/
def typeWithin (nested? : Option (Parse TypeRef)) : Parse TypeRef := do
  let inner ← if ← skipMark .openBracket then elementWithin nested?
    else do pure (.named (some (← name)))
  if ← skipMark .bang then return .nonNull inner else return inner

def typeRef : Nat → Parse TypeRef
  | 0 => typeWithin none
  | room + 1 => typeWithin (some (typeRef room))

/-- A type reference. -/
def type : Parse TypeRef := typeRef levelLimit

/-- A description, if a string is next. -/
def description : Parse (Option Description) := do
  match (← current).lexeme with
  | .string s => advance; return some ⟨s, false⟩
  | .block s => advance; return some ⟨s, true⟩
  | _ => return none

/-- The name of a fragment, which is not `on`. -/
def fragmentName : Parse String := do
  let t ← current
  if t.lexeme.value? == some "on" then unexpected t else name

def hasName : Parse Bool := do
  match (← current).lexeme with
  | .name _ => return true
  | _ => return false

/-- A selection, given how its own selection set is read and how many levels its arguments may
open. -/
def selection (room : Nat) (nested : Parse (List Selection)) : Parse Selection := do
  let place ← current
  if ← skipMark .spread then
    if ← skipKeyword "on" then
      let condition ← name
      let ds ← directivesWithin false room
      return .inline (some condition) ds (← nested)
    else if ← hasName then
      let s ← fragmentName
      return .spread s (← directivesWithin false room) place.start
    else
      let ds ← directivesWithin false room
      return .inline none ds (← nested)
  else
    let first ← name
    let (alias?, fieldName) ← if ← skipMark .colon then do pure (some first, ← name)
      else pure (none, first)
    let args ← arguments false room
    let ds ← directivesWithin false room
    let inner ← if ← isNext .openBrace then some <$> nested else pure none
    return .field alias? fieldName args ds inner place.start

def selectionSet : Nat → Parse (List Selection)
  | 0 => do fail .tooDeep (← current)
  | room + 1 => do
    bracketed .openBrace .closeBrace (← bound) (selection room (selectionSet room))

def selections : Parse (List Selection) := selectionSet levelLimit

def operationKind : Parse OperationKind := do
  let t ← current
  match t.lexeme with
  | .name s =>
    match OperationKind.ofText? s with
    | some kind => advance; return kind
    | none => unexpected t
  | found => fail (.expected .name found) t

def variableDefinition : Parse VariableDefinition := do
  let about ← description
  let s ← variableName false
  expectMark .colon
  let t ← type
  let value? ← initial
  return ⟨about, s, t, value?, ← directives true⟩

def operation : Parse Operation := do
  if ← isNext .openBrace then
    return ⟨none, .parsed .query, none, [], [], ← selections, none⟩
  let about ← description
  let kind ← operationKind
  let label ← if ← hasName then some <$> name else pure none
  let vs ← optionalBracketed .openParen .closeParen (← bound) variableDefinition
  let ds ← directives false
  return ⟨about, .parsed kind, label, vs, ds, ← selections, none⟩

def fragment : Parse Fragment := do
  let about ← description
  expectKeyword "fragment"
  let s ← fragmentName
  expectKeyword "on"
  let condition ← name
  let ds ← directives false
  return ⟨about, s, condition, ds, ← selections, none⟩

def inputValue : Parse InputValueDefinition := do
  let about ← description
  let s ← name
  expectMark .colon
  let t ← type
  let value? ← initial
  return ⟨about, s, t, value?, ← directives true⟩

def fieldDefinition : Parse FieldDefinition := do
  let about ← description
  let s ← name
  let args ← optionalBracketed .openParen .closeParen (← bound) inputValue
  expectMark .colon
  let t ← type
  return ⟨about, s, args, t, ← directives true⟩

def enumValue : Parse EnumValueDefinition := do
  let about ← description
  let t ← current
  match t.lexeme.value? with
  | some "true" | some "false" | some "null" => fail (.reservedEnumValue t.lexeme) t
  | _ =>
    let s ← name
    return ⟨about, s, ← directives true⟩

def operationType : Parse (OperationKind × String) := do
  let kind ← operationKind
  expectMark .colon
  return (kind, ← name)

def interfaces : Parse (List String) := do
  if ← skipKeyword "implements" then delimited .ampersand (← bound) name else return []

def unionMembers : Parse (List String) := do
  if ← skipMark .equals then delimited .bar (← bound) name else return []

def fields : Parse (List FieldDefinition) := do
  optionalBracketed .openBrace .closeBrace (← bound) fieldDefinition

/-- The places at which a directive can be applied. -/
def locationNames : List String :=
  ["QUERY", "MUTATION", "SUBSCRIPTION", "FIELD", "FRAGMENT_DEFINITION", "FRAGMENT_SPREAD",
    "INLINE_FRAGMENT", "VARIABLE_DEFINITION", "SCHEMA", "SCALAR", "OBJECT", "FIELD_DEFINITION",
    "ARGUMENT_DEFINITION", "INTERFACE", "UNION", "ENUM", "ENUM_VALUE", "INPUT_OBJECT",
    "INPUT_FIELD_DEFINITION", "DIRECTIVE_DEFINITION"]

def directiveLocation : Parse String := do
  let t ← current
  let s ← name
  if locationNames.contains s then return s else unexpected t

def schemaDefinition : Parse SchemaDefinition := do
  let about ← description
  expectKeyword "schema"
  let ds ← directives true
  return ⟨about, false, ds, ← bracketed .openBrace .closeBrace (← bound) operationType⟩

def directiveDefinition : Parse DirectiveDefinition := do
  let about ← description
  expectKeyword "directive"
  expectMark .at
  let s ← name
  let args ← optionalBracketed .openParen .closeParen (← bound) inputValue
  let repeatable ← skipKeyword "repeatable"
  expectKeyword "on"
  return ⟨about, s, args, repeatable, ← delimited .bar (← bound) directiveLocation⟩

/-- The keyword of a kind of type. -/
def typeKeyword : TypeKind → String
  | .scalar => "scalar"
  | .object => "type"
  | .interface => "interface"
  | .union => "union"
  | .enum => "enum"
  | .input => "input"

def typeKind? : String → Option TypeKind
  | "scalar" => some .scalar
  | "type" => some .object
  | "interface" => some .interface
  | "union" => some .union
  | "enum" => some .enum
  | "input" => some .input
  | _ => none

/-- What follows a type's keyword: name, directives and body. -/
def typeBody (kind : TypeKind) : Parse (String × List Directive × TypeBody) := do
  let s ← name
  match kind with
  | .scalar => return (s, ← directives true, .scalar)
  | .object =>
    let is ← interfaces
    let ds ← directives true
    return (s, ds, .object is (← fields))
  | .interface =>
    let is ← interfaces
    let ds ← directives true
    return (s, ds, .interface is (← fields))
  | .union =>
    let ds ← directives true
    return (s, ds, .union (← unionMembers))
  | .enum =>
    let ds ← directives true
    return (s, ds, .enum (← optionalBracketed .openBrace .closeBrace (← bound) enumValue))
  | .input =>
    let ds ← directives true
    return (s, ds, .input (← optionalBracketed .openBrace .closeBrace (← bound) inputValue))

def typeDefinition (kind : TypeKind) : Parse TypeDefinition := do
  let about ← description
  expectKeyword (typeKeyword kind)
  let (s, ds, body) ← typeBody kind
  return ⟨about, false, s, ds, body⟩

/-- Whether a body adds anything to a type. -/
def addsNothing : TypeBody → Bool
  | .scalar => true
  | .object is fs => is.isEmpty && fs.isEmpty
  | .interface is fs => is.isEmpty && fs.isEmpty
  | .union ms => ms.isEmpty
  | .enum vs => vs.isEmpty
  | .input fs => fs.isEmpty

/-- An extension behind the word `extend`; it has to add something. -/
def extension : Parse TypeSystemDefinition := do
  let keyword ← second
  let word := match keyword.lexeme with
    | .name s => s
    | _ => ""
  if word == "schema" then
    advance
    advance
    let ds ← directives true
    let types ← optionalBracketed .openBrace .closeBrace (← bound) operationType
    if ds.isEmpty && types.isEmpty then unexpected (← current)
    return .schema ⟨none, true, ds, types⟩
  else match typeKind? word with
    | some kind =>
      advance
      advance
      let (s, ds, body) ← typeBody kind
      if ds.isEmpty && addsNothing body then unexpected (← current)
      return .type ⟨none, true, s, ds, body⟩
    | none => unexpected keyword

/-- A definition whose keyword is `word`; it is told by the token at `place`, and `described`
says whether a description stands before it. -/
def definitionOf (described : Bool) (first place : Token) (word : String) : Parse Definition := do
  if word == "schema" then return .typeSystem (.schema (← schemaDefinition)) none
  else if word == "directive" then return .typeSystem (.directive (← directiveDefinition)) none
  else match typeKind? word with
    | some kind => return .typeSystem (.type (← typeDefinition kind)) none
    | none =>
      if (OperationKind.ofText? word).isSome then return .operation (← operation)
      else if word == "fragment" then return .fragment (← fragment)
      else if described then fail .describedNothing first
      else if word == "extend" then return .typeSystem (← extension) none
      else unexpected place

/-- One definition. -/
def definition : Parse Definition := do
  let first ← current
  match first.lexeme with
  | .mark .openBrace => return .operation (← operation)
  | .string _ | .block _ =>
    let keyword ← second
    match keyword.lexeme with
    | .mark .openBrace => fail .describedShorthand first
    | .name word => definitionOf true first keyword word
    | _ => unexpected keyword
  | .name word => definitionOf false first first word
  | _ => unexpected first

/-- Where the tokens read by a step begin and end. -/
def spanned {α : Type} (step : Parse α) : Parse (α × Nat × Nat) := do
  let before ← get
  let x ← step
  let after ← get
  let read := before.take (before.length - after.length)
  return (x, (read.head?.map (·.start)).getD 0, (read.getLast?.map (·.stop)).getD 0)

/-- Definitions up to the end of the text. -/
def definitions : Nat → Parse (List (Definition × Nat × Nat))
  | 0 => do unexpected (← current)
  | n + 1 => do
    let d ← spanned definition
    if (← current).lexeme == .finish then return [d]
    let ds ← definitions n
    return d :: ds

/-- A type reference and nothing after it. -/
def wholeType : Parse TypeRef := do
  let t ← type
  let next ← current
  if next.lexeme == .finish then return t else fail (.expected .finish next.lexeme) next

/-- Runs a step on the tokens of a text. -/
def run {α : Type} (step : Parse α) (text : String) : Except SyntaxError α :=
  match step (tokens text) with
  | .ok (x, _) => .ok x
  | .error (cause, offset) => .error ⟨cause, offset, text⟩

end Parse

/-- The characters of a text between two offsets. -/
def slice (text : String) (start stop : Nat) : String :=
  String.ofList ((text.toList.drop start).take (stop - start))

namespace Document

/-- Reads a document. Each definition keeps the characters it was read from. -/
def parse (text : String) : Except SyntaxError Document := do
  let ds ← Parse.run (do Parse.definitions (← Parse.bound)) text
  return ds.map fun (d, start, stop) => d.withSource (some (slice text start stop))

/-- Reads a document whose definitions forget the characters they were read from. -/
def parseUnlocated (text : String) : Except SyntaxError Document :=
  (parse text).map (·.map (·.withSource none))

end Document

end Syntax

/-- Reads a type reference. -/
def TypeRef.parse (text : String) : Except Syntax.SyntaxError TypeRef :=
  Syntax.Parse.run Syntax.Parse.wholeType text

end OperationClasses
