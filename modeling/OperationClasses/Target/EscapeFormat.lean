import OperationClasses.Target.FormatSpec

/-!
# Escape formats

How a target spells a reserved identifier: a text in which fields in braces stand for the
identifier. A field may pick a part of it, ask for its quoted form behind an exclamation mark, and
for a layout behind a colon; the layout may contain fields itself. Two braces in a row stand for
one.

A format is read into pieces up to where it breaks off, and spelled piece by piece, so the
leftmost fault is the one that is met.
-/
namespace OperationClasses

namespace EscapeFormat

/-- What a field begins with: nothing, a number, or a name. -/
inductive Start where
  | automatic
  | position (index : Nat)
  | name (text : String)
  | fault (f : FormatFault)
  deriving Repr, DecidableEq

/-- A step from a subject to a part of it, or the place where the reading of steps breaks off. -/
inductive Access where
  | attribute (name : String)
  | index (n : Nat)
  | key
  | fault (f : FormatFault)
  deriving Repr, DecidableEq

/-- A part of a format, or the place where its reading breaks off. -/
inductive Piece where
  | text (s : List Char)
  | field (start : Start) (accesses : List Access) (conversion? : Option Char) (spec : List Piece)
  | fault (f : FormatFault)
  deriving Repr

/-- A number that makes up a whole text. -/
def wholeNumber? (s : List Char) : Option (Except FormatFault Nat) :=
  if s.isEmpty || !s.all Text.isDigit then none
  else if FormatSpec.numberLimit < Text.digitsValue s then some (.error .tooManyDigits)
  else some (.ok (Text.digitsValue s))

def startOf (s : List Char) : Start :=
  if s.isEmpty then .automatic
  else match wholeNumber? s with
    | none => .name (String.ofList s)
    | some (.ok n) => .position n
    | some (.error f) => .fault f

/-- The step that a text in brackets stands for. -/
def accessOf (s : List Char) : Access :=
  if s.isEmpty then .fault .emptyAttribute
  else match wholeNumber? s with
    | none => .key
    | some (.ok n) => .index n
    | some (.error f) => .fault f

def opensAccess (c : Char) : Bool := c = '.' || c = '['

/-- The steps behind the beginning of a field; the bound is the length of the text. -/
def accesses : Nat → List Char → List Access
  | 0, _ => []
  | _, [] => []
  | n + 1, c :: rest =>
    if c = '.' then
      let name := rest.takeWhile (!opensAccess ·)
      (if name.isEmpty then .fault .emptyAttribute else .attribute (String.ofList name)) ::
        accesses n (rest.drop name.length)
    else if c = '[' then
      let inner := rest.takeWhile (· ≠ ']')
      accessOf inner :: accesses n (rest.drop (inner.length + 1))
    else [.fault .strayAfterBracket]

/-- The name of a field up to the mark that ends it, with the rest from that mark on. Brackets
hide the marks between them. -/
def splitName : Nat → List Char → List Char × List Char
  | 0, s => ([], s)
  | _, [] => ([], [])
  | n + 1, c :: rest =>
    if c = '\x7b' || c = '\x7d' || c = ':' || c = '!' then ([], c :: rest)
    else if c = '[' then
      let inner := rest.takeWhile (· ≠ ']')
      let (name, rest) := splitName n (rest.drop inner.length)
      (c :: (inner ++ name), rest)
    else
      let (name, rest) := splitName n rest
      (c :: name, rest)

/-- A specification up to the brace that closes its field, and the text after that brace. -/
def splitSpec (depth : Nat) : List Char → Option (List Char × List Char)
  | [] => none
  | c :: rest =>
    if c = '\x7d' then
      match depth with
      | 0 => some ([], rest)
      | d + 1 => (splitSpec d rest).map fun p => (c :: p.1, p.2)
    else if c = '\x7b' then (splitSpec (depth + 1) rest).map fun p => (c :: p.1, p.2)
    else (splitSpec depth rest).map fun p => (c :: p.1, p.2)

/-- The specification behind a colon. -/
def afterColon (name : List Char) (conversion? : Option Char) (s : List Char) :
    Except FormatFault (List Char × Option Char × List Char × List Char) :=
  match splitSpec 0 s with
  | some (spec, rest) => .ok (name, conversion?, spec, rest)
  | none => .error .unmatchedOpen

/-- A field behind its opening brace: its name, the conversion letter and the specification,
with the text after the closing brace. -/
def splitField (s : List Char) :
    Except FormatFault (List Char × Option Char × List Char × List Char) :=
  let (name, rest) := splitName s.length s
  match rest with
  | [] => .error .unclosedField
  | '\x7d' :: rest => .ok (name, none, [], rest)
  | ':' :: rest => afterColon name none rest
  | '!' :: rest =>
    match rest with
    | [] => .error .missingConversion
    | [_] => .error .unmatchedOpen
    | c :: '\x7d' :: rest => .ok (name, some c, [], rest)
    | c :: ':' :: rest => afterColon name (some c) rest
    | _ :: _ :: _ => .error .colonExpected
  | _ => .error .openInField

/-- The pieces of a text that holds no fields. -/
def plainSpec (spec : List Char) : List Piece := [.text spec]

/-- The pieces of a format, given how a specification with fields is read; the bound is the
length of the text. -/
def readPieces (spec : List Char → List Piece) : Nat → List Char → List Piece
  | 0, _ => []
  | _, [] => []
  | n + 1, c :: rest =>
    if c = '\x7b' then
      match rest with
      | [] => [.fault .singleOpen]
      | '\x7b' :: rest => .text ['\x7b'] :: readPieces spec n rest
      | rest =>
        match splitField rest with
        | .error f => [.fault f]
        | .ok (name, conversion?, inner, rest) =>
          let first := name.takeWhile (!opensAccess ·)
          .field (startOf first) (accesses name.length (name.drop first.length)) conversion?
            (if inner.contains '\x7b' then spec inner else plainSpec inner) ::
            readPieces spec n rest
    else if c = '\x7d' then
      match rest with
      | '\x7d' :: rest => .text ['\x7d'] :: readPieces spec n rest
      | _ => [.fault .singleClose]
    else .text [c] :: readPieces spec n rest

/-- The pieces of a text of which `levels` levels may contain fields. -/
def piecesWithin : Nat → List Char → List Piece
  | 0, _ => [.fault .nestedTooDeep]
  | levels + 1, s => readPieces (piecesWithin levels) s.length s

/-- Whether fields have been counted or numbered so far. -/
inductive Numbering where
  | undecided
  | automatic (next : Nat)
  | numbered
  deriving Repr, DecidableEq

/-- The literal with every character beyond ASCII escaped. -/
def asciiQuoted (s : List Char) : List Char :=
  (Text.escapedChars s).flatMap fun c =>
    if c.toNat < 0x80 then [c]
    else if c.toNat ≤ 0xff then '\\' :: 'x' :: Text.hexFixed false 2 c.toNat
    else if c.toNat ≤ 0xffff then '\\' :: 'u' :: Text.hexFixed false 4 c.toNat
    else '\\' :: 'U' :: Text.hexFixed false 8 c.toNat

/-- The subject that a field begins with; only the first position is filled. -/
def Start.find (name : List Char) :
    Start → Numbering → Except FormatFault (FormatSubject × Numbering)
  | .automatic, .numbered => .error .automaticAfterNumbered
  | .automatic, .undecided => .ok (.text name, .automatic 1)
  | .automatic, .automatic next =>
    if next = 0 then .ok (.text name, .automatic 1) else .error (.indexOutOfRange next)
  | .position _, .automatic _ => .error .numberedAfterAutomatic
  | .position index, _ =>
    if index = 0 then .ok (.text name, .numbered) else .error (.indexOutOfRange index)
  | .name text, _ => .error (.unknownName text)
  | .fault f, _ => .error f

/-- The attributes that lead to texts and classes. -/
def attribute? : FormatSubject → String → Option FormatSubject
  | .text _, "__class__" => some (.sort "str")
  | .sort _, "__class__" => some (.sort "type")
  | .sort name, "__name__" => some (.text name.toList)
  | .sort name, "__qualname__" => some (.text name.toList)
  | .sort _, "__module__" => some (.text "builtins".toList)
  | _, _ => none

/-- One step to a part of a subject. -/
def Access.step (subject : FormatSubject) : Access → Except FormatFault FormatSubject
  | .fault f => .error f
  | .attribute name =>
    match attribute? subject name with
    | some part => .ok part
    | none => .error (.unknownAttribute subject name)
  | .index n =>
    match subject with
    | .text s =>
      match s[n]? with
      | some c => .ok (.text [c])
      | none => .error .characterOutOfRange
    | .sort name => .error (.itemOfSort name)
  | .key =>
    match subject with
    | .text _ => .error .keyOfText
    | .sort name => .error (.itemOfSort name)

/-- A subject as a text. -/
def subjectText : FormatSubject → List Char
  | .text s => s
  | .sort name => ("<class '" ++ name ++ "'>").toList

/-- The form of a subject that a conversion letter asks for. -/
def convert (subject : FormatSubject) : Option Char → Except FormatFault FormatSubject
  | none => .ok subject
  | some c =>
    let form := fun quote : List Char → List Char =>
      match subject with
      | .text s => FormatSubject.text (quote s)
      | .sort _ => .text (subjectText subject)
    match c with
    | 's' => .ok (form id)
    | 'r' => .ok (form Text.escapedChars)
    | 'a' => .ok (form asciiQuoted)
    | c => .error (.unknownConversion c)

/-- Lays a subject out as a specification says. -/
def render (spec : List Char) : FormatSubject → Except FormatFault (List Char)
  | .text s => FormatSpec.layOut spec s
  | .sort name => if spec.isEmpty then .ok (subjectText (.sort name)) else .error .specForSort

mutual

/-- Spells one piece for an identifier. -/
def spellPiece (name : List Char) (numbering : Numbering) :
    Piece → Except FormatFault (List Char × Numbering)
  | .text s => .ok (s, numbering)
  | .fault f => .error f
  | .field start accesses conversion? spec => do
    let (subject, numbering) ← start.find name numbering
    let subject ← accesses.foldlM Access.step subject
    let subject ← convert subject conversion?
    let (spec, numbering) ← spellPieces name numbering spec
    return (← render spec subject, numbering)

def spellPieces (name : List Char) (numbering : Numbering) :
    List Piece → Except FormatFault (List Char × Numbering)
  | [] => .ok ([], numbering)
  | p :: rest => do
    let (s, numbering) ← spellPiece name numbering p
    let (t, numbering) ← spellPieces name numbering rest
    return (s ++ t, numbering)

end

end EscapeFormat

/-- An escape format: its text, and the pieces it was read into. -/
structure EscapeFormat where
  text : String
  pieces : List EscapeFormat.Piece
  deriving Repr

namespace EscapeFormat

/-- Reads a format. -/
def read (text : String) : EscapeFormat := ⟨text, piecesWithin 2 text.toList⟩

/-- The spelling of an identifier, or why it has none. -/
def spell? (f : EscapeFormat) (name : String) : Except FormatFault String :=
  (spellPieces name.toList .undecided f.pieces).map fun p => String.ofList p.1

/-- The spelling of an identifier; one that has none stays as it is. -/
def spell (f : EscapeFormat) (name : String) : String :=
  match f.spell? name with
  | .ok s => s
  | .error _ => name

/-- Why an identifier has no spelling. -/
def fault? (f : EscapeFormat) (name : String) : Option FormatFault :=
  match f.spell? name with
  | .ok _ => none
  | .error fault => some fault

/-- The format that puts a text before and after the identifier. -/
def around (before after : String) : EscapeFormat :=
  ⟨before ++ "\x7b\x7d" ++ after,
    [.text before.toList, .field .automatic [] none [], .text after.toList]⟩

theorem spell?_around (before after name : String) :
    (around before after).spell? name = .ok (before ++ name ++ after) := by
  simp [spell?, around, spellPieces, spellPiece, Start.find, convert, render, FormatSpec.layOut,
    bind, Except.bind, pure, Except.pure, Except.map, String.ofList_append, String.append_assoc]

theorem spell_around (before after name : String) :
    (around before after).spell name = before ++ name ++ after := by
  simp [spell, spell?_around]

end EscapeFormat

/-- The identifier, in its escaped spelling if it is one of the reserved words. -/
def escapeReserved (format : EscapeFormat) (reserved : List String) (name : String) : String :=
  if reserved.contains name then format.spell name else name

/-- Why a reserved word has no escaped spelling. -/
def escapeFault? (format : EscapeFormat) (reserved : List String) (name : String) :
    Option FormatFault :=
  if reserved.contains name then format.fault? name else none

end OperationClasses
