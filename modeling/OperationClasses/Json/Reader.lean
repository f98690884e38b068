import OperationClasses.Json.Value

/-!
# Reading JSON

A strict reader: one value with white space around it, no trailing commas, no comments, no
control characters inside strings, no lone surrogates. The three numbers that are not finite
may be spelled `NaN`, `Infinity` and `-Infinity`. Arrays and objects with something in them nest up
to a given depth.

Each function takes the rest of the text and returns what it read with the text after it. The
first argument of the recursive ones bounds the number of values and members still to come; the
length of the text is always enough.
-/
namespace OperationClasses.Json

open Text

/-- White space between tokens. -/
def isSpace (c : Char) : Bool := c = ' ' || c = '\t' || c = '\n' || c = '\r'

def skipSpace (s : List Char) : List Char := s.dropWhile isSpace

/-- The text after a given beginning. -/
def after? : List Char → List Char → Option (List Char)
  | [], s => some s
  | c :: cs, d :: s => if c = d then after? cs s else none
  | _ :: _, [] => none

/-- The character that a letter behind a backslash stands for. -/
def simpleEscape? : Char → Option Char
  | '"' => some '"'
  | '\\' => some '\\'
  | '/' => some '/'
  | 'b' => some '\x08'
  | 'f' => some '\x0c'
  | 'n' => some '\n'
  | 'r' => some '\r'
  | 't' => some '\t'
  | _ => none

/-- The value of four hexadecimal digits. -/
def fourDigits? (a b c d : Char) : Option Nat := hexNumber? [a, b, c, d]

/-- Whether a code unit opens or closes a surrogate pair. -/
def isHighSurrogate (n : Nat) : Bool := 0xd800 ≤ n && n ≤ 0xdbff

def isLowSurrogate (n : Nat) : Bool := 0xdc00 ≤ n && n ≤ 0xdfff

/-- The character of a surrogate pair. -/
def joinSurrogates (high low : Nat) : Char :=
  Char.ofNat (0x10000 + (high - 0xd800) * 0x400 + (low - 0xdc00))

/-- The inside of a string up to its closing quote. -/
def readString : List Char → Option (List Char × List Char)
  | '"' :: rest => some ([], rest)
  | '\\' :: 'u' :: a :: b :: c :: d :: rest => do
    let n ← fourDigits? a b c d
    if isHighSurrogate n then
      match rest with
      | '\\' :: 'u' :: a' :: b' :: c' :: d' :: rest' =>
        let low ← fourDigits? a' b' c' d'
        if isLowSurrogate low then
          let (s, out) ← readString rest'
          some (joinSurrogates n low :: s, out)
        else none
      | _ => none
    else if isLowSurrogate n then none
    else
      let (s, out) ← readString rest
      some (Char.ofNat n :: s, out)
  | '\\' :: e :: rest => do
    let c ← simpleEscape? e
    let (s, out) ← readString rest
    some (c :: s, out)
  | c :: rest =>
    if c.toNat < 0x20 || c = '\\' then none
    else do
      let (s, out) ← readString rest
      some (c :: s, out)
  | [] => none

/-- At least one digit. -/
def readDigits (s : List Char) : Option (List Char × List Char) :=
  match s.takeWhile Char.isDigit with
  | [] => none
  | ds => some (ds, s.dropWhile Char.isDigit)

/-- Digits without a leading zero. -/
def readWhole : List Char → Option (List Char × List Char)
  | '0' :: rest =>
    match rest with
    | d :: _ => if d.isDigit then none else some (['0'], rest)
    | [] => some (['0'], [])
  | s => readDigits s

/-- A point and digits, if there is a point. -/
def readFraction : List Char → Option (List Char × List Char)
  | '.' :: rest => (readDigits rest).map fun p => ('.' :: p.1, p.2)
  | s => some ([], s)

/-- An exponent, if there is one. -/
def readExponent : List Char → Option (List Char × List Char)
  | e :: rest =>
    if e = 'e' || e = 'E' then
      match rest with
      | '+' :: r => (readDigits r).map fun p => (e :: '+' :: p.1, p.2)
      | '-' :: r => (readDigits r).map fun p => (e :: '-' :: p.1, p.2)
      | r => (readDigits r).map fun p => (e :: p.1, p.2)
    else some ([], e :: rest)
  | [] => some ([], [])

/-- The number that decimal digits spell. -/
def digitsValue (ds : List Char) : Nat := ds.foldl (fun n d => 10 * n + (d.toNat - '0'.toNat)) 0

/-- The longest whole number that is read, in digits. -/
def digitLimit : Nat := 4300

/-- A number behind its sign. -/
def readUnsigned (negative : Bool) (s : List Char) : Option (Json × List Char) := do
  let (whole, s) ← readWhole s
  let (fraction, s) ← readFraction s
  let (exponent, s) ← readExponent s
  if fraction.isEmpty && exponent.isEmpty then
    if digitLimit < whole.length then none
    let n : Int := digitsValue whole
    some (.int (if negative then -n else n), s)
  else
    let sign := if negative then ['-'] else []
    some (.decimal (String.ofList (sign ++ whole ++ fraction ++ exponent)), s)

/-- A value that is neither array, object nor string. -/
def readScalar (s : List Char) : Option (Json × List Char) :=
  match s with
  | 'n' :: _ => (after? "null".toList s).map fun r => (.null, r)
  | 't' :: _ => (after? "true".toList s).map fun r => (.bool true, r)
  | 'f' :: _ => (after? "false".toList s).map fun r => (.bool false, r)
  | 'N' :: _ => (after? "NaN".toList s).map fun r => (.decimal "NaN", r)
  | 'I' :: _ => (after? "Infinity".toList s).map fun r => (.decimal "Infinity", r)
  | '-' :: 'I' :: _ => (after? "-Infinity".toList s).map fun r => (.decimal "-Infinity", r)
  | '-' :: rest => readUnsigned true rest
  | _ => readUnsigned false s

mutual

/-- One value; `room` is the number of levels it may still open. -/
def readValue (fuel room : Nat) (s : List Char) : Option (Json × List Char) :=
  match fuel with
  | 0 => none
  | fuel + 1 =>
    match skipSpace s with
    | '"' :: rest => (readString rest).map fun p => (.string (String.ofList p.1), p.2)
    | '[' :: rest =>
      match skipSpace rest with
      | ']' :: out => some (.array [], out)
      | inside =>
        if room = 0 then none
        else do
          let (items, out) ← readItems fuel (room - 1) inside
          some (.array items, out)
    | '\x7b' :: rest =>
      match skipSpace rest with
      | '\x7d' :: out => some (.object [], out)
      | inside =>
        if room = 0 then none
        else do
          let (members, out) ← readMembers fuel (room - 1) inside
          some (.object members, out)
    | s => readScalar s

/-- The items of an array from the first one to the closing bracket. -/
def readItems (fuel room : Nat) (s : List Char) : Option (List Json × List Char) :=
  match fuel with
  | 0 => none
  | fuel + 1 => do
    let (v, s) ← readValue fuel room s
    match skipSpace s with
    | ',' :: rest =>
      let (vs, out) ← readItems fuel room rest
      some (v :: vs, out)
    | ']' :: out => some ([v], out)
    | _ => none

/-- The members of an object from the first one to the closing brace. -/
def readMembers (fuel room : Nat) (s : List Char) : Option (List (String × Json) × List Char) :=
  match fuel with
  | 0 => none
  | fuel + 1 =>
    match skipSpace s with
    | '"' :: rest => do
      let (key, s) ← readString rest
      match skipSpace s with
      | ':' :: s => do
        let (v, s) ← readValue fuel room s
        let member := (String.ofList key, v)
        match skipSpace s with
        | ',' :: rest =>
          let (ms, out) ← readMembers fuel room rest
          some (member :: ms, out)
        | '\x7d' :: out => some ([member], out)
        | _ => none
      | _ => none
    | _ => none

end

/-- Reads a whole text with values nested up to `depth`; none when it is not JSON. -/
def read? (depth : Nat) (text : String) : Option Json := do
  let s := text.toList
  let (v, rest) ← readValue (2 * s.length + 2) depth s
  if (skipSpace rest).isEmpty then some v else none

/-- The nesting that configuration files may have. -/
def defaultDepth : Nat := 200

end OperationClasses.Json
