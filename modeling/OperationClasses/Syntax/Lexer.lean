import OperationClasses.Syntax.Token

/-!
# Lexer

Splits a text into tokens. White space, commas, byte order marks and comments separate tokens
and leave none. A step of the lexer reads one token or skips one separator and says how many
characters it took, so the rest of the text is always shorter and positions are sums of lengths.
-/
namespace OperationClasses.Syntax

open Text

/-- A letter or an underscore. -/
def isNameStart (c : Char) : Bool :=
  ('a' ≤ c && c ≤ 'z') || ('A' ≤ c && c ≤ 'Z') || c = '_'

def isDigit (c : Char) : Bool := '0' ≤ c && c ≤ '9'

/-- Letters, digits and underscores. -/
def isNamePart (c : Char) : Bool := isNameStart c || isDigit c

/-- Separators of a single character. -/
def isSeparator (c : Char) : Bool :=
  c = ' ' || c = '\t' || c = ',' || c = '\n' || c = '\r' || c = Char.ofNat 0xfeff

def isLineEnd (c : Char) : Bool := c = '\n' || c = '\r'

/-- A fault with its distance from where reading began. -/
abbrev FaultAt := LexicalFault × Nat

/-- At least one digit; returns how many. -/
def digitRun (s : List Char) : Except FaultAt Nat :=
  match s with
  | [] => .error (.digitExpected none, 0)
  | c :: rest =>
    if isDigit c then .ok ((rest.takeWhile isDigit).length + 1)
    else .error (.digitExpected (some c), 0)

/-- Moves a fault further from the beginning. -/
def shiftFault (n : Nat) (r : Except FaultAt Nat) : Except FaultAt Nat :=
  match r with
  | .ok k => .ok (n + k)
  | .error (fault, k) => .error (fault, n + k)

/-- Length of the digits before the point; a zero stands alone. -/
def wholeLength (s : List Char) : Except FaultAt Nat :=
  match s with
  | '0' :: rest =>
    match rest with
    | d :: _ => if isDigit d then .error (.digitAfterZero (some d), 1) else .ok 1
    | [] => .ok 1
  | s => digitRun s

/-- Length of a point and its digits; zero when there is no point. -/
def fractionLength (s : List Char) : Except FaultAt Nat :=
  match s with
  | '.' :: rest => shiftFault 1 (digitRun rest)
  | _ => .ok 0

/-- Length of an exponent; zero when there is none. -/
def exponentLength (s : List Char) : Except FaultAt Nat :=
  match s with
  | e :: rest =>
    if e = 'e' || e = 'E' then
      match rest with
      | sign :: rest' =>
        if sign = '+' || sign = '-' then shiftFault 2 (digitRun rest')
        else shiftFault 1 (digitRun rest)
      | [] => shiftFault 1 (digitRun rest)
    else .ok 0
  | [] => .ok 0

/-- The length of the number at the beginning of the text and whether it has a fraction or an
exponent. Neither a name nor a point may follow. -/
def numberLength (s : List Char) : Except FaultAt (Nat × Bool) := do
  let signed := match s with
    | '-' :: _ => 1
    | _ => 0
  let whole ← shiftFault signed (wholeLength (s.drop signed))
  let fraction ← shiftFault whole (fractionLength (s.drop whole))
  let all ← shiftFault fraction (exponentLength (s.drop fraction))
  match s.drop all with
  | c :: _ =>
    if c = '.' || isNameStart c then .error (.digitExpected (some c), all)
    else .ok (all, whole != all)
  | [] => .ok (all, whole != all)

/-- The character that a letter behind a backslash stands for. -/
def escapedChar? : Char → Option Char
  | '"' => some '"'
  | '\\' => some '\\'
  | '/' => some '/'
  | 'b' => some '\x08'
  | 'f' => some '\x0c'
  | 'n' => some '\n'
  | 'r' => some '\r'
  | 't' => some '\t'
  | _ => none

/-- The character with a given number, if the number is one of a character. -/
def charOf? (n : Nat) : Option Char :=
  if h : n.isValidChar then some (Char.ofNatAux n h) else none

/-- The escape `\u{…}`: digits up to the closing brace, at most nine characters in all between
the `u` and the end. `size` counts from the backslash. -/
def bracedEscape (written : List Char) : Nat → Nat → List Char → Except FaultAt (Char × Nat)
  | size, point, c :: rest =>
    let bad := LexicalFault.badUnicodeEscape (String.ofList (written.take (size + 1)))
    if size ≥ 12 then .error (.badUnicodeEscape (String.ofList (written.take size)), 0)
    else if c = '\x7d' then
      if size + 1 < 5 then .error (bad, 0)
      else match charOf? point with
        | some ch => .ok (ch, size + 1)
        | none => .error (bad, 0)
    else match hexValue? c with
      | some d => bracedEscape written (size + 1) (16 * point + d) rest
      | none => .error (bad, 0)
  | size, _, [] => .error (.badUnicodeEscape (String.ofList (written.take size)), 0)

/-- The number that four hexadecimal digits spell. -/
def fourHex? : List Char → Option Nat
  | a :: b :: c :: d :: _ => hexNumber? [a, b, c, d]
  | _ => none

/-- The escape `\uXXXX`, or two of them that form a surrogate pair. -/
def fixedEscape (written : List Char) : Except FaultAt (Char × Nat) :=
  let bad := LexicalFault.badUnicodeEscape (String.ofList (written.take 6))
  match fourHex? (written.drop 2) with
  | none => .error (bad, 0)
  | some n =>
    match charOf? n with
    | some ch => .ok (ch, 6)
    | none =>
      if n ≤ 0xdbff && (written.drop 6).take 2 = ['\\', 'u'] then
        match fourHex? (written.drop 8) with
        | some low =>
          if 0xdc00 ≤ low && low ≤ 0xdfff then
            .ok (Char.ofNat (0x10000 + (n - 0xd800) * 0x400 + (low - 0xdc00)), 12)
          else .error (bad, 0)
        | none => .error (bad, 0)
      else .error (bad, 0)

/-- The escape at the beginning of the text, which is a backslash, and its length. -/
def readEscape (written : List Char) : Except FaultAt (Char × Nat) :=
  match written with
  | _ :: 'u' :: '\x7b' :: rest => bracedEscape written 3 0 rest
  | _ :: 'u' :: _ => fixedEscape written
  | _ :: e :: _ =>
    match escapedChar? e with
    | some c => .ok (c, 2)
    | none => .error (.badEscape (String.ofList (written.take 2)), 0)
  | _ => .error (.badEscape (String.ofList (written.take 2)), 0)

/-- The value of a string behind its opening quote. `taken` characters are behind us; the
answer counts those up to and with the closing quote. -/
def stringBody (taken : Nat) (s : List Char) : Except FaultAt (List Char × Nat) :=
  match s with
  | [] => .error (.unterminatedString, taken)
  | c :: rest =>
    if c = '"' then .ok ([], taken + 1)
    else if isLineEnd c then .error (.unterminatedString, taken)
    else if c = '\\' then
      match readEscape s with
      | .error (fault, _) => .error (fault, taken)
      | .ok (ch, n) =>
        match stringBody (taken + (n - 1 + 1)) (rest.drop (n - 1)) with
        | .ok (value, all) => .ok (ch :: value, all)
        | .error e => .error e
    else
      match stringBody (taken + 1) rest with
      | .ok (value, all) => .ok (c :: value, all)
      | .error e => .error e
termination_by s.length
decreasing_by all_goals simp only [List.length_cons, List.length_drop]; omega

/-- Puts a character in front of the first line. -/
def consFirst (c : Char) : List (List Char) → List (List Char)
  | [] => [[c]]
  | l :: ls => (c :: l) :: ls

/-- The lines of a block string behind its opening quotes, and the number of characters up to
and with the closing quotes; none when it is not closed. -/
def blockLines : List Char → Option (List (List Char) × Nat)
  | '"' :: '"' :: '"' :: _ => some ([[]], 3)
  | '\\' :: '"' :: '"' :: '"' :: rest =>
    (blockLines rest).map fun p => (consFirst '"' (consFirst '"' (consFirst '"' p.1)), p.2 + 4)
  | '\r' :: '\n' :: rest => (blockLines rest).map fun p => ([] :: p.1, p.2 + 2)
  | c :: rest =>
    if isLineEnd c then (blockLines rest).map fun p => ([] :: p.1, p.2 + 1)
    else (blockLines rest).map fun p => (consFirst c p.1, p.2 + 1)
  | [] => none

def isIndentation (c : Char) : Bool := c = ' ' || c = '\t'

/-- The number of leading spaces and tabs. -/
def leadingBlanks (line : List Char) : Nat := (line.takeWhile isIndentation).length

/-- Lines of nothing but spaces and tabs. -/
def isBlankLine (line : List Char) : Bool := line.all isIndentation

/-- The least indentation of the lines that are not blank; none when all are. -/
def commonIndent? (ls : List (List Char)) : Option Nat :=
  (ls.filter (!isBlankLine ·)).foldl
    (fun acc l => some (match acc with
      | none => leadingBlanks l
      | some n => min n (leadingBlanks l))) none

/-- Removes the common indentation of all lines but the first, and blank lines at either
end. -/
def dedent (ls : List (List Char)) : List (List Char) :=
  match ls with
  | [] => []
  | first :: rest =>
    let moved := match commonIndent? rest with
      | some n => rest.map (·.drop n)
      | none => rest.map fun _ => []
    (((first :: moved).dropWhile isBlankLine).reverse.dropWhile isBlankLine).reverse

/-- Lines joined by line feeds. -/
def joinLines (ls : List (List Char)) : List Char :=
  match ls with
  | [] => []
  | first :: rest => first ++ rest.flatMap ('\n' :: ·)

/-- What stands at the beginning of a text that is not empty: a separator or a token, with the
number of characters that it takes beyond the first one. -/
inductive Scan where
  | skip (more : Nat)
  | token (l : Lexeme) (more : Nat)
  | fault (f : LexicalFault) (distance : Nat)

/-- A number, which begins with a digit or a minus sign. -/
def scanNumber (s : List Char) : Scan :=
  match numberLength s with
  | .ok (n, isFloat) =>
    let spelling := String.ofList (s.take n)
    .token (if isFloat then .float spelling else .int spelling) (n - 1)
  | .error (f, n) => .fault f n

/-- A string or a block string, which begins with a quote; `rest` follows it. -/
def scanString (rest : List Char) : Scan :=
  match rest with
  | '"' :: '"' :: body =>
    match blockLines body with
    | some (ls, n) => .token (.block (String.ofList (joinLines (dedent ls)))) (n + 2)
    | none => .fault .unterminatedString (body.length + 3)
  | _ =>
    match stringBody 1 rest with
    | .ok (value, n) => .token (.string (String.ofList value)) (n - 1)
    | .error (f, n) => .fault f n

/-- What the character `c` and the text behind it begin with. -/
def scan (c : Char) (rest : List Char) : Scan :=
  if isSeparator c then .skip 0
  else if c = '#' then .skip (rest.takeWhile (!isLineEnd ·)).length
  else if isNameStart c then
    let more := rest.takeWhile isNamePart
    .token (.name (String.ofList (c :: more))) more.length
  else if isDigit c || c = '-' then scanNumber (c :: rest)
  else if c = '"' then scanString rest
  else if c = '.' && rest.take 2 = ['.', '.'] then .token (.mark .spread) 2
  else match Mark.ofChar? c with
    | some m => .token (.mark m) 0
    | none => .fault (if c = '\'' then .singleQuote else .unexpectedCharacter c) 0

/-- The tokens of a text that begins at a given offset. The last one is the end of the text or
the place where it breaks off. -/
def tokensFrom (offset : Nat) (s : List Char) : List Token :=
  match s with
  | [] => [⟨.finish, offset, offset⟩]
  | c :: rest =>
    match scan c rest with
    | .skip more => tokensFrom (offset + more + 1) (rest.drop more)
    | .token l more =>
      ⟨l, offset, offset + more + 1⟩ :: tokensFrom (offset + more + 1) (rest.drop more)
    | .fault f n => [⟨.broken f, offset + n, offset + n⟩]
termination_by s.length
decreasing_by all_goals simp only [List.length_cons, List.length_drop]; omega

/-- The tokens of a text. -/
def tokens (text : String) : List Token := tokensFrom 0 text.toList

end OperationClasses.Syntax
