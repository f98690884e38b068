import OperationClasses.PythonModule.Token

/-!
# Expressions of a module

Whether tokens make an expression, and of what shape, for only some shapes can be assigned to.
Operators are not told apart by their binding, since a row of operands between operators is an
expression however they bind.

The recursive steps carry a bound on how deep they may call each other; a multiple of the
number of tokens is always enough.
-/
namespace OperationClasses.PythonModule

/-- What an expression is as a target. -/
inductive Shape where
  | name
  /-- An attribute or an item of something. -/
  | place
  | sequence (items : List Shape)
  | starred (inner : Shape)
  | grouped (inner : Shape)
  | other
  deriving Repr, Inhabited

namespace Shape

mutual

/-- Whether something can be assigned to the shape. -/
def isTarget : Shape → Bool
  | .name | .place => true
  | .sequence items => areTargets items
  | .starred s | .grouped s => isTarget s
  | .other => false

def areTargets : List Shape → Bool
  | [] => true
  | s :: rest => isTarget s && areTargets rest

end

mutual

/-- Whether the shape can be deleted. -/
def isDeletable : Shape → Bool
  | .name | .place => true
  | .sequence items => areDeletable items
  | .grouped s => isDeletable s
  | .starred _ | .other => false

def areDeletable : List Shape → Bool
  | [] => true
  | s :: rest => isDeletable s && areDeletable rest

end

/-- Whether the shape is a single target. -/
def isSingle : Shape → Bool
  | .name | .place => true
  | .grouped s => isSingle s
  | _ => false

def isStarred : Shape → Bool
  | .starred _ => true
  | _ => false

def isName : Shape → Bool
  | .name => true
  | _ => false

end Shape

/-- A step that takes tokens away, or fails. -/
abbrev Parse := StateT (List Token) Option

namespace Parse

def next? : Parse (Option Token) := do return (← get).head?

def advance : Parse Unit := modify List.tail

def isNext (t : Token) : Parse Bool := do return (← next?) == some t

/-- Takes a token away if it is next. -/
def skip (t : Token) : Parse Bool := do
  if ← isNext t then advance; return true else return false

/-- Takes a token away if it is one of those. -/
def skipOneOf (ts : List Token) : Parse Bool := do
  match ← next? with
  | some t => if ts.contains t then advance; return true else return false
  | none => return false

def expect (t : Token) : Parse Unit := do if ← skip t then return () else failure

def isOp (s : String) : Parse Bool := isNext (.operator s)

def isWord (s : String) : Parse Bool := isNext (.word s)

def skipOp (s : String) : Parse Bool := skip (.operator s)

def skipWord (s : String) : Parse Bool := skip (.word s)

def expectOp (s : String) : Parse Unit := expect (.operator s)

def expectWord (s : String) : Parse Unit := expect (.word s)

def require (b : Bool) : Parse Unit := if b then return () else failure

/-- A word that is no keyword. -/
def identifier : Parse Unit := do
  match ← next? with
  | some (.word s) => require (!keywords.contains s); advance
  | _ => failure

/-- Whether an argument with a name is next. -/
def isNamedArgument : Parse Bool := do
  match ← get with
  | .word s :: .operator "=" :: _ => return !keywords.contains s
  | _ => return false

/-- Literals of one sort, one after another. -/
def literals : Parse Unit := do
  match ← get with
  | .literal isBytes _ :: rest =>
    let others := rest.takeWhile Token.isLiteral
    require (others.all (Token.isLiteralOf isBytes))
    set (rest.drop others.length)
  | _ => failure

/-- The operators between operands that bind tighter than comparisons. -/
def tightOperators : List String :=
  ["+", "-", "*", "/", "//", "%", "@", "**", "<<", ">>", "&", "^", "|"]

def comparisons : List String := ["<", ">", "==", ">=", "<=", "!="]

/-- Takes an operator between operands away if one is next; comparisons only if they are
allowed. -/
def skipBinary (comparing : Bool) : Parse Bool := do
  match ← get with
  | .operator s :: rest =>
    if tightOperators.contains s || comparing && comparisons.contains s then
      set rest
      return true
    else return false
  | .word "in" :: rest => if comparing then set rest; return true else return false
  | .word "not" :: .word "in" :: rest => if comparing then set rest; return true else return false
  | .word "is" :: .word "not" :: rest => if comparing then set rest; return true else return false
  | .word "is" :: rest => if comparing then set rest; return true else return false
  | _ => return false

/-- What has been seen of a list of parameters. -/
structure Parameters where
  count : Nat := 0
  hasDefault : Bool := false
  hasSlash : Bool := false
  hasStar : Bool := false
  /-- A lone star was seen, which a parameter has to follow. -/
  needsName : Bool := false

/-- Where the arguments of a call stand. -/
inductive Stage where
  | positional | named | unpacked
  deriving DecidableEq

mutual

/-- An expression without a comma at its top level. -/
def expression : Nat → Parse Shape
  | 0 => failure
  | n + 1 => do
    if ← skipWord "lambda" then
      parameters false ":" {} n
      expectOp ":"
      discard (expression n)
      return .other
    else
      let s ← disjunction n
      if ← skipWord "if" then
        discard (disjunction n)
        expectWord "else"
        discard (expression n)
        return .other
      else return s

/-- An expression that may give its value a name. -/
def named : Nat → Parse Shape
  | 0 => failure
  | n + 1 => do
    let s ← expression n
    if ← isOp ":=" then
      require s.isName
      advance
      discard (expression n)
      return .other
    else return s

/-- Operands between logical operators. -/
def disjunction : Nat → Parse Shape
  | 0 => failure
  | n + 1 => do
    let s ← inversion n
    if ← skipOneOf [.word "and", .word "or"] then
      discard (disjunction n)
      return .other
    else return s

def inversion : Nat → Parse Shape
  | 0 => failure
  | n + 1 => do
    if ← skipWord "not" then
      discard (inversion n)
      return .other
    else operands true n

/-- Operands between other operators. -/
def operands (comparing : Bool) : Nat → Parse Shape
  | 0 => failure
  | n + 1 => do
    let s ← operand n
    if ← skipBinary comparing then
      discard (operands comparing n)
      return .other
    else return s

/-- An operand with its signs. -/
def operand : Nat → Parse Shape
  | 0 => failure
  | n + 1 => do
    if ← skipOneOf [.operator "+", .operator "-", .operator "~"] then
      discard (operand n)
      return .other
    else if ← skipWord "await" then
      discard (primary n)
      return .other
    else primary n

/-- An atom with attributes, calls and items behind it. -/
def primary : Nat → Parse Shape
  | 0 => failure
  | n + 1 => do trailers (← atom n) n

def trailers (s : Shape) : Nat → Parse Shape
  | 0 => failure
  | n + 1 => do
    if ← skipOp "." then
      identifier
      trailers .place n
    else if ← skipOp "(" then
      callArguments n
      trailers .other n
    else if ← skipOp "[" then
      slices n
      trailers .place n
    else return s

def atom : Nat → Parse Shape
  | 0 => failure
  | n + 1 => do
    match ← next? with
    | some (.word s) =>
      if s = "None" || s = "True" || s = "False" then
        advance
        return .other
      else
        identifier
        return .name
    | some (.number _) => advance; return .other
    | some (.literal _ _) => literals; return .other
    | some (.operator "...") => advance; return .other
    | some (.operator "(") => advance; parenthesized n
    | some (.operator "[") => advance; bracketed n
    | some (.operator "\x7b") => advance; braced n
    | _ => failure

/-- What follows an opening parenthesis: a tuple, a generator or a group. -/
def parenthesized : Nat → Parse Shape
  | 0 => failure
  | n + 1 => do
    if ← skipOp ")" then return .sequence []
    else if ← isWord "yield" then
      yielded n
      expectOp ")"
      return .other
    else
      let first ← starNamed n
      if ← isComprehension then
        require (!first.isStarred)
        comprehension n
        expectOp ")"
        return .other
      else if ← isOp "," then
        return .sequence (first :: (← moreItems ")" n))
      else
        expectOp ")"
        require (!first.isStarred)
        return .grouped first

/-- What follows an opening bracket: a list. -/
def bracketed : Nat → Parse Shape
  | 0 => failure
  | n + 1 => do
    if ← skipOp "]" then return .sequence []
    else
      let first ← starNamed n
      if ← isComprehension then
        require (!first.isStarred)
        comprehension n
        expectOp "]"
        return .other
      else return .sequence (first :: (← moreItems "]" n))

/-- What follows an opening brace: a dictionary or a set. -/
def braced : Nat → Parse Shape
  | 0 => failure
  | n + 1 => do
    if ← skipOp "\x7d" then return .other
    else if ← isOp "**" then
      entries n
      return .other
    else if ← isOp "*" then
      discard (starNamed n)
      discard (moreItems "\x7d" n)
      return .other
    else
      let s ← expression n
      if ← skipOp ":" then
        discard (expression n)
        if ← isComprehension then
          comprehension n
          expectOp "\x7d"
        else if ← skipOp "," then entries n
        else expectOp "\x7d"
        return .other
      else
        if ← isOp ":=" then
          require s.isName
          advance
          discard (expression n)
        if ← isComprehension then
          comprehension n
          expectOp "\x7d"
        else discard (moreItems "\x7d" n)
        return .other

/-- Entries of a dictionary up to its closing brace, perhaps none. -/
def entries : Nat → Parse Unit
  | 0 => failure
  | n + 1 => do
    if ← skipOp "\x7d" then return ()
    else
      if ← skipOp "**" then discard (operands false n)
      else
        discard (expression n)
        expectOp ":"
        discard (expression n)
      if ← skipOp "," then entries n else expectOp "\x7d"

/-- An item of a list, set or tuple. -/
def starNamed : Nat → Parse Shape
  | 0 => failure
  | n + 1 => do
    if ← skipOp "*" then return .starred (← operands false n)
    else named n

/-- Further items, each behind a comma, up to a closing bracket. -/
def moreItems (close : String) : Nat → Parse (List Shape)
  | 0 => failure
  | n + 1 => do
    if ← skipOp close then return []
    else
      expectOp ","
      if ← skipOp close then return []
      else
        let s ← starNamed n
        return s :: (← moreItems close n)

/-- Whether the loops of a comprehension are next. -/
def isComprehension : Parse Bool := do
  match ← get with
  | .word "for" :: _ => return true
  | .word "async" :: .word "for" :: _ => return true
  | _ => return false

/-- The loops of a comprehension. -/
def comprehension : Nat → Parse Unit
  | 0 => failure
  | n + 1 => do
    discard (skipWord "async")
    expectWord "for"
    discard (targets n)
    expectWord "in"
    discard (disjunction n)
    conditions n
    if ← isComprehension then comprehension n

def conditions : Nat → Parse Unit
  | 0 => failure
  | n + 1 => do
    if ← skipWord "if" then
      discard (disjunction n)
      conditions n

/-- The targets of a loop, perhaps with a comma at the end. -/
def targets : Nat → Parse Shape
  | 0 => failure
  | n + 1 => do
    let first ← target n
    if ← isOp "," then return .sequence (first :: (← moreTargets n)) else return first

def moreTargets : Nat → Parse (List Shape)
  | 0 => failure
  | n + 1 => do
    if ← skipOp "," then
      if (← isWord "in") || (← isOp "=") then return []
      else
        let s ← target n
        return s :: (← moreTargets n)
    else return []

def target : Nat → Parse Shape
  | 0 => failure
  | n + 1 => do
    let isStar ← skipOp "*"
    let s ← primary n
    require s.isTarget
    return if isStar then .starred s else s

/-- The arguments of a call behind its parenthesis. A generator may be the only one. -/
def callArguments : Nat → Parse Unit
  | 0 => failure
  | n + 1 => do
    if ← skipOp ")" then return ()
    else if (← isOp "*") || (← isOp "**") || (← isNamedArgument) then arguments .positional n
    else
      discard (named n)
      if ← isComprehension then
        comprehension n
        expectOp ")"
      else if ← skipOp "," then arguments .positional n
      else expectOp ")"

/-- Arguments up to a closing parenthesis, perhaps none. -/
def arguments (stage : Stage) : Nat → Parse Unit
  | 0 => failure
  | n + 1 => do
    if ← skipOp ")" then return ()
    else
      let mut stage := stage
      if ← skipOp "*" then
        require (stage ≠ .unpacked)
        discard (expression n)
      else if ← skipOp "**" then
        discard (expression n)
        stage := .unpacked
      else if ← isNamedArgument then
        advance
        advance
        discard (expression n)
        if stage = .positional then stage := .named
      else
        require (stage = .positional)
        discard (named n)
      if ← skipOp "," then arguments stage n else expectOp ")"

/-- The items between brackets behind something. -/
def slices : Nat → Parse Unit
  | 0 => failure
  | n + 1 => do
    slice n
    if ← skipOp "," then
      if ← skipOp "]" then return () else slices n
    else expectOp "]"

def slice : Nat → Parse Unit
  | 0 => failure
  | n + 1 => do
    if ← skipOp "*" then discard (expression n)
    else if ← isOp ":" then sliceEnds n
    else
      let s ← expression n
      if ← isOp ":" then sliceEnds n
      else if ← isOp ":=" then
        require s.isName
        advance
        discard (expression n)

/-- The end of a slice and its step. -/
def sliceEnds : Nat → Parse Unit
  | 0 => failure
  | n + 1 => do
    expectOp ":"
    optionalBound n
    if ← skipOp ":" then optionalBound n

def optionalBound : Nat → Parse Unit
  | 0 => failure
  | n + 1 => do
    if (← isOp ":") || (← isOp "]") || (← isOp ",") then return ()
    else discard (expression n)

/-- A value that is handed out. -/
def yielded : Nat → Parse Unit
  | 0 => failure
  | n + 1 => do
    expectWord "yield"
    if ← skipWord "from" then discard (expression n)
    else
      match ← next? with
      | some .newline | some (.operator ")") | some (.operator ";") | some (.operator "=") =>
        return ()
      | _ => discard (starExpressions n)

/-- Expressions with commas between them, as they stand in a statement. -/
def starExpressions : Nat → Parse Shape
  | 0 => failure
  | n + 1 => do
    let first ← starExpression n
    if ← isOp "," then return .sequence (first :: (← moreExpressions n)) else return first

def starExpression : Nat → Parse Shape
  | 0 => failure
  | n + 1 => do
    if ← skipOp "*" then return .starred (← operands false n) else expression n

def moreExpressions : Nat → Parse (List Shape)
  | 0 => failure
  | n + 1 => do
    if ← skipOp "," then
      match ← next? with
      | some .newline | some (.operator "=") | some (.operator ")") | some (.operator ";")
      | some (.operator ":") | none => return []
      | _ =>
        let s ← starExpression n
        return s :: (← moreExpressions n)
    else return []

/-- Parameters up to a mark that ends them. -/
def parameters (annotated : Bool) (close : String) (p : Parameters) : Nat → Parse Unit
  | 0 => failure
  | n + 1 => do
    if ← isOp close then require (!p.needsName)
    else
      let p ← parameter annotated p n
      if ← skipOp "," then parameters annotated close p n
      else
        require (← isOp close)
        require (!p.needsName)

/-- One parameter, or a mark that takes the place of one. After the last kind nothing but a
comma may come. -/
def parameter (annotated : Bool) (p : Parameters) : Nat → Parse Parameters
  | 0 => failure
  | n + 1 => do
    if ← skipOp "/" then
      require (!p.hasSlash && !p.hasStar && 0 < p.count)
      return { p with hasSlash := true }
    else if ← skipOp "**" then
      require (!p.needsName)
      identifier
      annotation annotated false n
      discard (skipOp ",")
      require ((← isOp ")") || (← isOp ":"))
      return p
    else if ← skipOp "*" then
      require (!p.hasStar)
      if ← isOp "," then return { p with hasStar := true, needsName := true }
      else
        identifier
        annotation annotated true n
        return { p with hasStar := true }
    else
      identifier
      annotation annotated false n
      if ← skipOp "=" then
        discard (expression n)
        return { p with count := p.count + 1, hasDefault := true, needsName := false }
      else
        require (!p.hasDefault || p.hasStar)
        return { p with count := p.count + 1, needsName := false }

/-- The annotation of a parameter, if there is one. -/
def annotation (annotated mayBeStarred : Bool) : Nat → Parse Unit
  | 0 => failure
  | n + 1 => do
    if annotated then
      if ← skipOp ":" then
        if mayBeStarred then discard (starExpression n) else discard (expression n)

end

end Parse

end OperationClasses.PythonModule
