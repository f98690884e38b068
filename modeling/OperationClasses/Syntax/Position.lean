/-!
# Positions

A position is a text with an offset into it. Line and column are counted from one; a line ends
at a line feed, a carriage return, or both in this order. The excerpt shows the line with a caret
below the column and its neighbours around it.
-/
namespace OperationClasses.Syntax

/-- An offset into a text. -/
structure Position where
  text : String
  offset : Nat
  deriving Repr, DecidableEq, Inhabited

/-- The lines of a text as the language counts them; there is always at least one. -/
def sourceLines : List Char → List (List Char)
  | [] => [[]]
  | '\r' :: '\n' :: rest => [] :: sourceLines rest
  | c :: rest =>
    if c = '\n' || c = '\r' then [] :: sourceLines rest
    else
      match sourceLines rest with
      | [] => [[c]]
      | l :: ls => (c :: l) :: ls

/-- Line and column of an offset, starting from a given line and column. -/
def locateFrom (line column : Nat) : Nat → List Char → Nat × Nat
  | 0, _ => (line, column)
  | _, [] => (line, column)
  | n + 1, '\r' :: '\n' :: rest =>
    match n with
    | 0 => (line, column + 1)
    | n + 1 => locateFrom (line + 1) 1 n rest
  | n + 1, c :: rest =>
    if c = '\n' || c = '\r' then locateFrom (line + 1) 1 n rest
    else locateFrom line (column + 1) n rest

/-- Line and column of an offset, both counted from one. -/
def locate (text : String) (offset : Nat) : Nat × Nat := locateFrom 1 1 offset text.toList

namespace Position

/-- Line and column, both counted from one. -/
def location (p : Position) : Nat × Nat := locate p.text p.offset

/-- A number or a blank before a bar, and the text behind it. -/
structure ReportLine where
  label : String
  text : List Char

/-- Pieces of a fixed length; the last one may be shorter. -/
def pieces (length : Nat) : Nat → List Char → List (List Char)
  | 0, _ => []
  | fuel + 1, s =>
    if s.isEmpty then [] else s.take length :: pieces length fuel (s.drop length)

def renderLine (width : Nat) (l : ReportLine) : String :=
  String.ofList (List.replicate (width - l.label.length) ' ') ++ l.label ++
    (if l.text.isEmpty then "" else " " ++ String.ofList l.text)

/-- Labels are aligned to the right. -/
def renderLines (ls : List ReportLine) : String :=
  let width := (ls.map (·.label.length)).foldl max 0
  "\n".intercalate (ls.map (renderLine width))

/-- A caret in a given column. -/
def caret (column : Nat) : List Char := List.replicate (column - 1) ' ' ++ ['^']

/-- The lines around the position. A line of more than 120 characters is shown in pieces of 80,
up to the one after the caret. -/
def excerpt (p : Position) : List ReportLine :=
  let (line, column) := p.location
  let all := sourceLines p.text.toList
  let shown := all.getD (line - 1) []
  let label := fun n : Nat => toString n ++ " |"
  if shown.length > 120 then
    let parts := pieces 80 shown.length shown
    let index := column / 80
    let before := (parts.drop 1).take index
    let next := if index + 1 < parts.length then [⟨"|", parts.getD (index + 1) []⟩] else []
    ⟨label line, parts.getD 0 []⟩ :: before.map (⟨"|", ·⟩) ++ [⟨"|", caret (column % 80)⟩] ++ next
  else
    let above := if line > 1 then [⟨label (line - 1), all.getD (line - 2) []⟩] else []
    let below := if line < all.length then [⟨label (line + 1), all.getD line []⟩] else []
    above ++ [⟨label line, shown⟩, ⟨"|", caret column⟩] ++ below

/-- Place and excerpt, as they follow a message. -/
def report (p : Position) : String :=
  let (line, column) := p.location
  "\n\nGraphQL request:" ++ toString line ++ ":" ++ toString column ++ "\n" ++
    renderLines p.excerpt

end Position

end OperationClasses.Syntax
