import OperationClasses.PythonModule.Identifier
import OperationClasses.Text.CharacterName
import OperationClasses.Text.Hex

/-!
# Literals of a module

Numbers and text literals. Each function takes the characters from some point of a literal on
and returns those behind it, or nothing when the literal is malformed. The names of characters in
escapes are not looked up, and what a formatted literal has between braces is taken as text.
-/
namespace OperationClasses.PythonModule

/-- Digits, with single underscores between them, behind a first digit. -/
def digitsTail (isDigit : Char → Bool) : List Char → Option (List Char)
  | [] => some []
  | c :: rest =>
    if c = '_' then
      match rest with
      | d :: rest' => if isDigit d then digitsTail isDigit rest' else none
      | [] => none
    else if isDigit c then digitsTail isDigit rest
    else some (c :: rest)

/-- At least one digit. -/
def digits (isDigit : Char → Bool) : List Char → Option (List Char)
  | c :: rest => if isDigit c then digitsTail isDigit rest else none
  | [] => none

/-- The words that may follow a number without a space. -/
def wordsAfterNumber : List (List Char) :=
  ["and", "else", "for", "if", "in", "is", "or", "not"].map String.toList

/-- A number ends where no word goes on, except for an operator's word. -/
def numberEnd (s : List Char) : Option (List Char) :=
  if wordsAfterNumber.any (·.isPrefixOf s) then some s
  else match s with
    | c :: _ => if isAsciiPart c || 0x80 ≤ c.toNat then none else some s
    | [] => some []

/-- The mark of an imaginary number, if it is there. -/
def imaginaryMark (s : List Char) : Option (List Char) :=
  match s with
  | c :: rest => if c = 'j' || c = 'J' then numberEnd rest else numberEnd s
  | [] => some []

/-- An exponent, if there is one. -/
def exponent (s : List Char) : Option (List Char) :=
  match s with
  | e :: rest =>
    if e = 'e' || e = 'E' then
      match rest with
      | c :: rest' =>
        if c = '+' || c = '-' then (digits Char.isDigit rest').bind imaginaryMark
        else if c.isDigit then (digitsTail Char.isDigit rest').bind imaginaryMark
        else numberEnd s
      | [] => none
    else imaginaryMark s
  | [] => some []

/-- What may follow a point: digits and an exponent. -/
def fraction (s : List Char) : Option (List Char) :=
  match s with
  | c :: rest => if c.isDigit then (digitsTail Char.isDigit rest).bind exponent else exponent s
  | [] => some []

/-- What may follow the whole digits of a number. -/
def afterWhole (s : List Char) : Option (List Char) :=
  match s with
  | '.' :: rest => fraction rest
  | _ => exponent s

/-- Zeros, with single underscores between them. -/
def zerosTail : List Char → Option (List Char)
  | [] => some []
  | c :: rest =>
    if c = '0' then zerosTail rest
    else if c = '_' then
      match rest with
      | d :: rest' => if d = '0' then zerosTail rest' else if d.isDigit then some rest else none
      | [] => none
    else some (c :: rest)

/-- Whether a number that begins with a zero may have other whole digits: it is not an integer. -/
def isInteger (s : List Char) : Bool :=
  match s with
  | c :: _ => !(c = '.' || c = 'e' || c = 'E' || c = 'j' || c = 'J')
  | [] => true

/-- A number behind its leading zero. -/
def afterZero (s : List Char) : Option (List Char) := do
  let rest ← zerosTail s
  match rest with
  | c :: rest' =>
    if c.isDigit then
      let rest ← digitsTail Char.isDigit rest'
      if isInteger rest then none else afterWhole rest
    else afterWhole rest
  | [] => some []

/-- Digits of another base behind its letter, perhaps behind an underscore. -/
def radixDigits (isDigit : Char → Bool) (s : List Char) : Option (List Char) := do
  let rest ← digits isDigit (match s with
    | '_' :: rest => rest
    | _ => s)
  numberEnd rest

def isHexDigit (c : Char) : Bool := (Text.hexValue? c).isSome

def isOctalDigit (c : Char) : Bool := '0' ≤ c && c ≤ '7'

def isBinaryDigit (c : Char) : Bool := c = '0' || c = '1'

/-- How many digits a whole number can have that is not zero. -/
def maxWholeDigits : Nat := 4300

/-- Whether the characters of a number make a whole number in base ten that is too long. -/
def isTooLong (cs : List Char) : Bool :=
  cs.head? ≠ some '0' && cs.all (fun c => c.isDigit || c = '_') &&
    maxWholeDigits < (cs.filter Char.isDigit).length

/-- A number that begins with a digit, or with a point and a digit. -/
def number (s : List Char) : Option (List Char) :=
  match s with
  | '.' :: rest => fraction rest
  | '0' :: c :: rest =>
    if c = 'x' || c = 'X' then radixDigits isHexDigit rest
    else if c = 'o' || c = 'O' then radixDigits isOctalDigit rest
    else if c = 'b' || c = 'B' then radixDigits isBinaryDigit rest
    else afterZero (c :: rest)
  | '0' :: [] => some []
  | _ => (digits Char.isDigit s).bind afterWhole

/-- How a text literal begins. -/
structure Opening where
  isBytes : Bool
  isRaw : Bool
  isFormatted : Bool
  quote : Char
  isTriple : Bool
  deriving Repr, DecidableEq

/-- The letters in front of a quote: whether the literal is one of bytes, raw, or formatted. -/
def announced? (letters : List Char) : Option (Bool × Bool × Bool) :=
  match letters.map Char.toLower with
  | [] | ['u'] => some (false, false, false)
  | ['r'] => some (false, true, false)
  | ['f'] => some (false, false, true)
  | ['f', 'r'] | ['r', 'f'] => some (false, true, true)
  | ['b'] => some (true, false, false)
  | ['b', 'r'] | ['r', 'b'] => some (true, true, false)
  | _ => none

/-- The beginning of a text literal, with the characters behind it. -/
def opening? (s : List Char) : Option (Opening × List Char) :=
  let letters := (s.take 2).takeWhile Char.isAlpha
  match s.drop letters.length, announced? letters with
  | q :: rest, some (isBytes, isRaw, isFormatted) =>
    if q = '"' || q = '\'' then
      if [q, q].isPrefixOf rest then some (⟨isBytes, isRaw, isFormatted, q, true⟩, rest.drop 2)
      else some (⟨isBytes, isRaw, isFormatted, q, false⟩, rest)
    else none
  | _, _ => none

/-- The inside of a text literal up to its closing quotes, and the characters behind them. -/
def inside (o : Opening) : List Char → Option (List Char × List Char)
  | [] => none
  | c :: rest =>
    if c = o.quote && (!o.isTriple || [c, c].isPrefixOf rest) then
      some ([], if o.isTriple then rest.drop 2 else rest)
    else if c = '\n' && !o.isTriple then none
    else if c = '\\' then
      match rest with
      | d :: rest' => (inside o rest').map fun p => (c :: d :: p.1, p.2)
      | [] => none
    else (inside o rest).map fun p => (c :: p.1, p.2)

/-- Whether the given number of hexadecimal digits comes next, for a value below a limit. -/
def hasHex (count limit : Nat) (s : List Char) : Bool :=
  (s.take count).length = count &&
    match Text.hexNumber? (s.take count) with
    | some n => n < limit
    | none => false

/-- Whether the name of a character in braces comes next. -/
def hasBracedName (s : List Char) : Bool :=
  match s with
  | '\x7b' :: rest =>
    let name := rest.takeWhile (· ≠ '\x7d')
    name.length < rest.length && Text.isCharacterName name
  | _ => false

/-- Whether every escape of a text is complete. -/
def escapesComplete (isBytes : Bool) : List Char → Bool
  | [] => true
  | '\\' :: e :: rest =>
    (match e with
      | 'x' => hasHex 2 0x100 rest
      | 'u' => isBytes || hasHex 4 0x10000 rest
      | 'U' => isBytes || hasHex 8 0x110000 rest
      | 'N' => isBytes || hasBracedName rest
      | _ => true) && escapesComplete isBytes rest
  | _ :: rest => escapesComplete isBytes rest

/-- Whether the inside of a literal that has no fields is fit for it. -/
def isFit (o : Opening) (body : List Char) : Bool :=
  (!o.isBytes || body.all (·.toNat < 0x80)) && (o.isRaw || escapesComplete o.isBytes body)

end OperationClasses.PythonModule
