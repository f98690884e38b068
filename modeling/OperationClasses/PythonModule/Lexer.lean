import OperationClasses.PythonModule.Formatted
import OperationClasses.PythonModule.Token
import OperationClasses.Text.Blank

/-!
# From characters to tokens

Lines are structured by their indentation, measured twice: with tabs that reach to the next
multiple of eight, and with tabs as wide as a space. Both measures have to agree on what is
deeper. Inside brackets line ends and indentation mean nothing, and brackets have to match.
-/
namespace OperationClasses.PythonModule

/-- An indentation in the two measures. -/
structure Indentation where
  wide : Nat := 0
  narrow : Nat := 0
  deriving Repr, DecidableEq, Inhabited

/-- How many levels of indentation there can be, the outermost one included. -/
def maxIndentations : Nat := 100

/-- How many brackets can be open. -/
def maxBrackets : Nat := 200

/-- Measures the indentation of a line. A line that is continued before it has said anything is
measured up to the first backslash that has something before it, with wide tabs for both
measures. -/
def measure (i : Indentation) (fixed? : Option Indentation) :
    List Char → Option (Indentation × List Char)
  | [] => some (fixed?.getD i, [])
  | c :: rest =>
    if c = ' ' then measure ⟨i.wide + 1, i.narrow + 1⟩ fixed? rest
    else if c = '\t' then measure ⟨(i.wide / 8 + 1) * 8, i.narrow + 1⟩ fixed? rest
    else if c = '\x0c' then measure {} fixed? rest
    else if c = '\\' then
      match rest with
      | '\n' :: next :: later =>
        measure i (fixed?.or (if i.wide = 0 then none else some ⟨i.wide, i.wide⟩)) (next :: later)
      | _ => none
    else some (fixed?.getD i, c :: rest)

/-- The levels that are open, innermost first, after a line of a given indentation, with the
tokens for the levels it opens or closes. -/
def adjust (i : Indentation) : List Indentation → Option (List Token × List Indentation)
  | [] =>
    if i.wide = 0 then if i.narrow = 0 then some ([], []) else none
    else if i.narrow = 0 then none
    else some ([.indent], [i])
  | top :: rest =>
    if i.wide = top.wide then if i.narrow = top.narrow then some ([], top :: rest) else none
    else if top.wide < i.wide then
      if rest.length + 2 ≥ maxIndentations || i.narrow ≤ top.narrow then none
      else some ([.indent], i :: top :: rest)
    else close rest
where
  /-- Closes levels until one of the given indentation is left. -/
  close : List Indentation → Option (List Token × List Indentation)
    | [] => if i.wide = 0 && i.narrow = 0 then some ([.dedent], []) else none
    | top :: rest =>
      if i.wide < top.wide then (close rest).map fun p => (.dedent :: p.1, p.2)
      else if i = top then some ([.dedent], top :: rest)
      else none

/-- What is read after a token: the brackets that are open then. -/
def adjustBrackets (brackets : List String) (op : String) : Option (List String) :=
  match closing? op with
  | some c => if brackets.length ≥ maxBrackets then none else some (c :: brackets)
  | none =>
    if isClosing op then
      match brackets with
      | c :: rest => if c = op then some rest else none
      | [] => none
    else some brackets

/-- A word, if its characters make an identifier. -/
def word (s : List Char) : Option (Token × List Char) :=
  let isPossible := fun c : Char => isAsciiPart c || 0x80 ≤ c.toNat
  match s.takeWhile isPossible with
  | [] => none
  | c :: rest =>
    if isIdentifierStart c && rest.all isIdentifierPart then
      some (.word (String.ofList (c :: rest)), s.dropWhile isPossible)
    else none

/-- A literal behind its opening, with the characters behind it. -/
def literal (o : Opening) (s : List Char) : Option (Token × List Char) := do
  let (body, rest) ← inside o s
  if o.isFormatted then return (.literal false (← fields? o.isRaw body), rest)
  else if isFit o body then return (.literal o.isBytes [], rest)
  else none

/-- A number, with the characters behind it. -/
def numberToken (s : List Char) : Option (Token × List Char) := do
  let rest ← number s
  let cs := s.take (s.length - rest.length)
  if isTooLong cs then none
  else return (.number (cs.getLast?.any fun c => c = 'j' || c = 'J'), rest)

/-- The token at the beginning of a text. -/
def token (s : List Char) : Option (Token × List Char) :=
  match opening? s with
  | some (o, rest) => literal o rest
  | none =>
    let startsNumber := match s with
      | '.' :: d :: _ => d.isDigit
      | c :: _ => c.isDigit
      | [] => false
    if startsNumber then numberToken s
    else match operators.find? fun op => op.toList.isPrefixOf s with
      | some op => some (.operator op, s.drop op.length)
      | none => word s

/-- The tokens from some point on, at the beginning of a line or inside one. The bound is twice
the number of characters. -/
def lex : Nat → Bool → List String → List Indentation → List Char → Option (List Token)
  | 0, _, _, _, _ => none
  | n + 1, true, brackets, levels, s =>
    match measure {} none s with
    | none => none
    | some (i, rest) =>
      match rest with
      | [] => some (List.replicate levels.length .dedent)
      | '\n' :: rest => lex n true brackets levels rest
      | '#' :: rest => lex n true brackets levels (rest.dropWhile (· ≠ '\n'))
      | _ => do
        let (tokens, levels) ← adjust i levels
        return tokens ++ (← lex n false brackets levels rest)
  | n + 1, false, brackets, levels, s =>
    match s with
    | [] => none
    | '\n' :: rest =>
      if brackets.isEmpty then (lex n true brackets levels rest).map (.newline :: ·)
      else lex n false brackets levels rest
    | '#' :: rest => lex n false brackets levels (rest.dropWhile (· ≠ '\n'))
    | '\\' :: '\n' :: rest => if rest.isEmpty then none else lex n false brackets levels rest
    | c :: rest =>
      if c = ' ' || c = '\t' || c = '\x0c' then lex n false brackets levels rest
      else do
        let (t, later) ← token s
        let brackets ← match t with
          | .operator op => adjustBrackets brackets op
          | _ => some brackets
        return t :: (← lex n false brackets levels later)

/-- The text with line feeds at the end of its lines, the last one included. -/
def completeLines (text : String) : List Char :=
  let s := Text.unifyLineEnds text.toList
  if s.getLast? = some '\n' then s else s ++ ['\n']

/-- The tokens of lines. -/
def tokensOf (s : List Char) : Option (List Token) := lex (2 * s.length + 2) true [] [] s

/-- The tokens of a module. -/
def tokens (text : String) : Option (List Token) := tokensOf (completeLines text)

end OperationClasses.PythonModule
