import OperationClasses.PythonModule.Expression

/-!
# Patterns of a module

What stands behind a case: alternatives of literals, names, sequences, mappings and classes,
each of which may be given a name.
-/
namespace OperationClasses.PythonModule.Parse

/-- A name that a pattern binds. -/
def bound : Parse Unit := do
  require (!(← isWord "_"))
  identifier

/-- A number with its sign, or the sum of a real and an imaginary one. -/
def signedNumber : Parse Unit := do
  discard (skipOp "-")
  match ← next? with
  | some (.number isImaginary) =>
    advance
    if ← skipOneOf [.operator "+", .operator "-"] then
      require (!isImaginary)
      expect (.number true)
  | _ => failure

/-- Whether a literal is next. -/
def isLiteral : Parse Bool := do
  match ← next? with
  | some (.number _) | some (.literal _ _) | some (.operator "-") => return true
  | some (.word s) => return s = "None" || s = "True" || s = "False"
  | _ => return false

def literalPattern : Parse Unit := do
  match ← next? with
  | some (.literal _ _) => literals
  | some (.word _) => advance
  | _ => signedNumber

/-- A name with attributes; says whether there are any. -/
def attributes : Nat → Parse Bool
  | 0 => failure
  | n + 1 => do
    identifier
    if ← skipOp "." then
      discard (attributes n)
      return true
    else return false

mutual

/-- Alternatives, perhaps under a name. -/
def pattern : Nat → Parse Unit
  | 0 => failure
  | n + 1 => do
    alternatives n
    if ← skipWord "as" then bound

def alternatives : Nat → Parse Unit
  | 0 => failure
  | n + 1 => do
    closedPattern n
    if ← skipOp "|" then alternatives n

def closedPattern : Nat → Parse Unit
  | 0 => failure
  | n + 1 => do
    if ← isLiteral then literalPattern
    else if ← skipOp "(" then parenthesizedPattern n
    else if ← skipOp "[" then
      if ← skipOp "]" then return () else itemPatterns "]" n
    else if ← skipOp "\x7b" then mappingPattern n
    else
      discard (attributes n)
      if ← skipOp "(" then classPattern false n

/-- What follows an opening parenthesis: a sequence, or one pattern alone. -/
def parenthesizedPattern : Nat → Parse Unit
  | 0 => failure
  | n + 1 => do
    if ← skipOp ")" then return ()
    else
      let isStar ← isOp "*"
      itemPattern n
      if ← skipOp "," then
        if ← skipOp ")" then return () else itemPatterns ")" n
      else
        require (!isStar)
        expectOp ")"

/-- An item of a sequence, or a name for several. -/
def itemPattern : Nat → Parse Unit
  | 0 => failure
  | n + 1 => do
    if ← skipOp "*" then identifier else pattern n

/-- Items up to a closing bracket. -/
def itemPatterns (close : String) : Nat → Parse Unit
  | 0 => failure
  | n + 1 => do
    itemPattern n
    if ← skipOp "," then
      if ← skipOp close then return () else itemPatterns close n
    else expectOp close

/-- Keys with patterns up to a closing brace; a name for the others comes last. -/
def mappingPattern : Nat → Parse Unit
  | 0 => failure
  | n + 1 => do
    if ← skipOp "\x7d" then return ()
    else if ← skipOp "**" then
      bound
      discard (skipOp ",")
      expectOp "\x7d"
    else
      if ← isLiteral then literalPattern else require (← attributes n)
      expectOp ":"
      pattern n
      if ← skipOp "," then mappingPattern n else expectOp "\x7d"

/-- Arguments of a class up to a closing parenthesis; those with names come last. -/
def classPattern (namesOnly : Bool) : Nat → Parse Unit
  | 0 => failure
  | n + 1 => do
    if ← skipOp ")" then return ()
    else
      let isNamed ← isNamedArgument
      require (isNamed || !namesOnly)
      if isNamed then
        advance
        advance
      pattern n
      if ← skipOp "," then classPattern isNamed n else expectOp ")"

end

/-- Further items of a sequence without brackets. -/
def openPatterns : Nat → Parse Unit
  | 0 => failure
  | n + 1 => do
    if ← skipOp "," then
      if (← isOp ":") || (← isWord "if") then return ()
      else
        itemPattern n
        openPatterns n

/-- What stands behind a case: a pattern, or a sequence without brackets. -/
def patterns (n : Nat) : Parse Unit := do
  if ← isOp "*" then
    itemPattern n
    require (← isOp ",")
  else pattern n
  openPatterns n

/-- What cases are compared with: a value, or a sequence without brackets. -/
def subject (n : Nat) : Parse Unit := do
  let first ← starNamed n
  if ← isOp "," then discard (moreItems ":" n)
  else
    require (!first.isStarred)
    expectOp ":"

end OperationClasses.PythonModule.Parse
