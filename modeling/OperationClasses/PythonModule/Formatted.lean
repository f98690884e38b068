import OperationClasses.PythonModule.Literal

/-!
# Formatted literals

The inside of a formatted literal is text with fields in braces; a brace of the text is written
twice. A field holds an expression, then perhaps an equals sign, a conversion and a format,
which is again text with fields, but those have no fields in their formats. What a field's
expression means is not looked at here: it is cut out by its brackets and quotes.
-/
namespace OperationClasses.PythonModule

/-- The text of an expression. -/
abbrev ExpressionText := List Char

/-- Where one is inside of the expression of a field: in a literal with some quote, or between
brackets, the innermost first. -/
structure FieldState where
  literal? : Option (Char × Bool) := none
  brackets : List Char := []

/-- Whether a character ends an expression outside of brackets, unless an equals sign makes it an
operator. -/
def endsExpression (c : Char) : Bool := c = '!' || c = ':' || c = '\x7d' || c = '='

/-- Cuts off the expression at the beginning of a field. It ends at a character that ends it;
backslashes and remarks cannot be part of it. -/
def cutExpression (st : FieldState) : List Char → Option (ExpressionText × List Char)
  | [] => none
  | c :: rest =>
    let goOn := fun (more : Nat) (st : FieldState) =>
      (cutExpression st (rest.drop more)).map fun p => (c :: (rest.take more ++ p.1), p.2)
    if c = '\\' then none
    else match st.literal? with
      | some (quote, isTriple) =>
        if c ≠ quote then goOn 0 st
        else if !isTriple then goOn 0 { st with literal? := none }
        else if [c, c].isPrefixOf rest then goOn 2 { st with literal? := none }
        else goOn 0 st
      | none =>
        if c = '\'' || c = '"' then
          if [c, c].isPrefixOf rest then goOn 2 { st with literal? := some (c, true) }
          else goOn 0 { st with literal? := some (c, false) }
        else if c = '(' then goOn 0 { st with brackets := ')' :: st.brackets }
        else if c = '[' then goOn 0 { st with brackets := ']' :: st.brackets }
        else if c = '\x7b' then goOn 0 { st with brackets := '\x7d' :: st.brackets }
        else if c = '#' then none
        else if st.brackets.isEmpty && (endsExpression c || c = '<' || c = '>') then
          if rest.head? = some '=' && c ≠ ':' && c ≠ '\x7d' then goOn 1 st
          else if endsExpression c then some ([], c :: rest)
          else goOn 0 st
        else if c = ')' || c = ']' || c = '\x7d' then
          match st.brackets with
          | close :: outer => if c = close then goOn 0 { st with brackets := outer } else none
          | [] => none
        else goOn 0 st
termination_by s => s.length
decreasing_by all_goals simp only [List.length_drop, List.length_cons]; omega

/-- Cuts off text up to a brace or the end. In the literal itself a brace that is written twice
belongs to the text, and a closing one alone cannot be there. The name of a character in an
escape is part of the text. -/
def cutText (isRaw isOuter : Bool) : List Char → Option (List Char × List Char)
  | [] => some ([], [])
  | c :: rest =>
    let goOn := fun (more : Nat) =>
      (cutText isRaw isOuter (rest.drop more)).map fun p => (c :: (rest.take more ++ p.1), p.2)
    if c = '\\' && !isRaw then
      match rest with
      | [] => some ([c], [])
      | 'N' :: '\x7b' :: name =>
        goOn (2 + (name.takeWhile (· ≠ '\x7d')).length + 1)
      | d :: _ => if d = '\x7b' || d = '\x7d' then goOn 0 else goOn 1
    else if c = '\x7b' || c = '\x7d' then
      if !isOuter then some ([], c :: rest)
      else if rest.head? = some c then goOn 1
      else if c = '\x7b' then some ([], c :: rest)
      else none
    else goOn 0
termination_by s => s.length
decreasing_by all_goals simp only [List.length_drop, List.length_cons]; omega

/-- Blanks that an expression may have around it. -/
def isFieldBlank (c : Char) : Bool := c = ' ' || c = '\t' || c = '\n' || c = '\x0c'

/-- An equals sign behind an expression, if it is there, with the blanks behind it. -/
def skipEquals : List Char → List Char
  | '=' :: rest => rest.dropWhile fun c => isFieldBlank c || c = '\x0b'
  | s => s

/-- A conversion, if it is there. -/
def skipConversion : List Char → Option (List Char)
  | '!' :: c :: rest => if c = 's' || c = 'r' || c = 'a' then some rest else none
  | ['!'] => none
  | s => some s

/-- How deep fields can be: in the literal and in the format of a field. -/
def maxFieldDepth : Nat := 2

mutual

/-- The expressions of the fields in text, up to the brace that closes the field around it or to
the end of the literal. The bound is one on the number of characters. -/
def fieldsIn (isRaw : Bool) (depth : Nat) : Nat → List Char →
    Option (List ExpressionText × List Char)
  | 0, _ => none
  | n + 1, s => do
    let (text, rest) ← cutText isRaw (depth = 0) s
    if !isRaw && !escapesComplete false text then none
    match rest with
    | '\x7b' :: rest => do
      let (first, rest) ← field isRaw depth n rest
      let (more, rest) ← fieldsIn isRaw depth n rest
      return (first ++ more, rest)
    | rest => return ([], rest)

/-- The expressions of a field behind its opening brace: its own and those of its format. -/
def field (isRaw : Bool) (depth : Nat) : Nat → List Char →
    Option (List ExpressionText × List Char)
  | 0, _ => none
  | n + 1, s => do
    let (expression, rest) ← cutExpression {} s
    if maxFieldDepth ≤ depth || expression.all isFieldBlank then none
    let rest ← skipConversion (skipEquals rest)
    let (formats, rest) ← match rest with
      | ':' :: rest => fieldsIn isRaw (depth + 1) n rest
      | rest => some ([], rest)
    match rest with
    | '\x7d' :: rest => return (expression :: formats, rest)
    | _ => none

end

/-- The expressions in the inside of a formatted literal. -/
def fields? (isRaw : Bool) (body : List Char) : Option (List ExpressionText) := do
  let (expressions, rest) ← fieldsIn isRaw 0 (2 * body.length + 2) body
  if rest.isEmpty then some expressions else none

end OperationClasses.PythonModule
