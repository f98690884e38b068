import OperationClasses.PythonModule.Pattern

/-!
# Statements of a module

Whether tokens make statements. Simple statements share lines, compound ones hold blocks of
further statements. What a statement refers to is not looked at, nor whether it may stand where
it does. The words of a case distinction are ordinary names elsewhere.
-/
namespace OperationClasses.PythonModule.Parse

/-- The operators that combine a target with a value. -/
def augmentations : List Token :=
  ["+=", "-=", "*=", "@=", "/=", "%=", "&=", "|=", "^=", "<<=", ">>=", "**=", "//="].map .operator

/-- Names with dots between them. -/
def dottedName : Nat → Parse Unit
  | 0 => failure
  | n + 1 => do
    identifier
    if ← skipOp "." then dottedName n

/-- Names with commas between them. -/
def names : Nat → Parse Unit
  | 0 => failure
  | n + 1 => do
    identifier
    if ← skipOp "," then names n

/-- A new name for something, if there is one. -/
def newName : Parse Unit := do if ← skipWord "as" then identifier

/-- Modules that are imported whole. -/
def importedModules : Nat → Parse Unit
  | 0 => failure
  | n + 1 => do
    dottedName n
    newName
    if ← skipOp "," then importedModules n

/-- Names that are imported from a module; between parentheses a comma may end them. -/
def importedNames (enclosed : Bool) : Nat → Parse Unit
  | 0 => failure
  | n + 1 => do
    identifier
    newName
    if ← skipOp "," then
      if enclosed && (← isOp ")") then return ()
      else importedNames enclosed n

/-- The dots in front of a module's name. -/
def leadingDots : Nat → Parse Bool
  | 0 => failure
  | n + 1 => do
    if ← skipOneOf [.operator ".", .operator "..."] then
      discard (leadingDots n)
      return true
    else return false

def importFrom (n : Nat) : Parse Unit := do
  let isRelative ← leadingDots n
  if !(isRelative && (← isWord "import")) then dottedName n
  expectWord "import"
  if ← skipOp "*" then return ()
  else if ← skipOp "(" then
    importedNames true n
    expectOp ")"
  else importedNames false n

/-- The value of an assignment. -/
def assignedValue (n : Nat) : Parse Shape := do
  if ← isWord "yield" then
    yielded n
    return .other
  else starExpressions n

/-- Values behind equals signs; all but the last one are targets too. -/
def assignedValues : Nat → Parse Unit
  | 0 => failure
  | n + 1 => do
    let s ← assignedValue n
    if ← skipOp "=" then
      require s.isTarget
      assignedValues n

/-- An expression, or an assignment of one of the three sorts. -/
def assignment (n : Nat) : Parse Unit := do
  let s ← assignedValue n
  if ← skipOp ":" then
    require s.isSingle
    discard (expression n)
    if ← skipOp "=" then discard (assignedValue n)
  else if ← skipOneOf augmentations then
    require s.isSingle
    discard (assignedValue n)
  else if ← skipOp "=" then
    require s.isTarget
    assignedValues n

/-- Whether a simple statement ends here. -/
def isStatementEnd : Parse Bool := do return (← isNext .newline) || (← isOp ";")

/-- The error that is raised, if any, and its cause. -/
def raised (n : Nat) : Parse Unit := do
  if ← isStatementEnd then return ()
  else
    discard (expression n)
    if ← skipWord "from" then discard (expression n)

/-- What is asserted, and a message. -/
def asserted (n : Nat) : Parse Unit := do
  discard (expression n)
  if ← skipOp "," then discard (expression n)

def simpleStatement (n : Nat) : Parse Unit := do
  if ← skipOneOf [.word "pass", .word "break", .word "continue"] then return ()
  else if ← skipWord "return" then
    if ← isStatementEnd then return () else discard (starExpressions n)
  else if ← skipWord "raise" then raised n
  else if ← skipWord "import" then importedModules n
  else if ← skipWord "from" then importFrom n
  else if ← skipOneOf [.word "global", .word "nonlocal"] then names n
  else if ← skipWord "del" then
    let s ← starExpressions n
    require s.isDeletable
  else if ← skipWord "assert" then asserted n
  else assignment n

/-- Simple statements on a line. -/
def simpleStatements : Nat → Parse Unit
  | 0 => failure
  | n + 1 => do
    simpleStatement n
    if ← skipOp ";" then
      if ← skip .newline then return () else simpleStatements n
    else expect .newline

/-- Something with a context of its own, and the target for it. -/
def contextItem (n : Nat) : Parse Unit := do
  discard (expression n)
  if ← skipWord "as" then discard (target n)

def contextItems (enclosed : Bool) : Nat → Parse Unit
  | 0 => failure
  | n + 1 => do
    contextItem n
    if ← skipOp "," then
      if enclosed && (← isOp ")") then return ()
      else contextItems enclosed n

/-- Contexts between parentheses, or else without them. -/
def contexts (n : Nat) : Parse Unit :=
  (do
    expectOp "("
    contextItems true n
    expectOp ")"
    expectOp ":") <|> (do
    contextItems false n
    expectOp ":")

/-- Whether a handler of groups is next. -/
def isGroupHandler : Parse Bool := do
  match ← get with
  | .word "except" :: .operator "*" :: _ => return true
  | _ => return false

mutual

/-- The statements of a block: on the same line, or deeper on the lines after it. -/
def block : Nat → Parse Unit
  | 0 => failure
  | n + 1 => do
    if ← skip .newline then
      expect .indent
      statements n
      expect .dedent
    else simpleStatements n

/-- One or more statements. -/
def statements : Nat → Parse Unit
  | 0 => failure
  | n + 1 => do
    statement n
    match ← next? with
    | none | some .dedent => return ()
    | some _ => statements n

def statement : Nat → Parse Unit
  | 0 => failure
  | n + 1 => do
    if ← isOp "@" then decorated n
    else if ← skipWord "async" then
      if ← skipWord "def" then definition n
      else if ← skipWord "for" then loop n
      else
        expectWord "with"
        contexts n
        block n
    else if ← skipWord "def" then definition n
    else if ← skipWord "class" then classDefinition n
    else if ← skipWord "if" then conditional n
    else if ← skipWord "while" then
      discard (named n)
      expectOp ":"
      block n
      otherwise n
    else if ← skipWord "for" then loop n
    else if ← skipWord "with" then
      contexts n
      block n
    else if ← skipWord "try" then
      expectOp ":"
      block n
      handlers n
    else if ← isWord "match" then distinction n <|> simpleStatements n
    else simpleStatements n

/-- A case distinction. -/
def distinction : Nat → Parse Unit
  | 0 => failure
  | n + 1 => do
    expectWord "match"
    subject n
    expect .newline
    expect .indent
    cases n
    expect .dedent

/-- One or more cases. -/
def cases : Nat → Parse Unit
  | 0 => failure
  | n + 1 => do
    expectWord "case"
    patterns n
    if ← skipWord "if" then discard (named n)
    expectOp ":"
    block n
    if ← isWord "case" then cases n

/-- A definition behind decorators. -/
def decorated : Nat → Parse Unit
  | 0 => failure
  | n + 1 => do
    if ← skipOp "@" then
      discard (named n)
      expect .newline
      decorated n
    else if ← skipWord "class" then classDefinition n
    else
      discard (skipWord "async")
      expectWord "def"
      definition n

def definition : Nat → Parse Unit
  | 0 => failure
  | n + 1 => do
    identifier
    expectOp "("
    parameters true ")" {} n
    expectOp ")"
    if ← skipOp "->" then discard (expression n)
    expectOp ":"
    block n

def classDefinition : Nat → Parse Unit
  | 0 => failure
  | n + 1 => do
    identifier
    if ← skipOp "(" then arguments .positional n
    expectOp ":"
    block n

/-- What follows the word of a condition. -/
def conditional : Nat → Parse Unit
  | 0 => failure
  | n + 1 => do
    discard (named n)
    expectOp ":"
    block n
    if ← skipWord "elif" then conditional n else otherwise n

/-- The alternative of a condition or a loop, if there is one. -/
def otherwise : Nat → Parse Unit
  | 0 => failure
  | n + 1 => do
    if ← skipWord "else" then
      expectOp ":"
      block n

def loop : Nat → Parse Unit
  | 0 => failure
  | n + 1 => do
    discard (targets n)
    expectWord "in"
    discard (starExpressions n)
    expectOp ":"
    block n
    otherwise n

/-- The handlers of errors: at least one, all of one sort, or none and a final block. -/
def handlers : Nat → Parse Unit
  | 0 => failure
  | n + 1 => do
    if ← isWord "except" then
      moreHandlers (← isGroupHandler) n
      otherwise n
      finalBlock n
    else
      require (← isWord "finally")
      finalBlock n

def moreHandlers (ofGroups : Bool) : Nat → Parse Unit
  | 0 => failure
  | n + 1 => do
    if ← skipWord "except" then
      if ofGroups then expectOp "*"
      if ofGroups || !(← isOp ":") then
        discard (expression n)
        newName
      expectOp ":"
      block n
      moreHandlers ofGroups n

def finalBlock : Nat → Parse Unit
  | 0 => failure
  | n + 1 => do
    if ← skipWord "finally" then
      expectOp ":"
      block n

end

end OperationClasses.PythonModule.Parse
