/-!
# Blank characters and lines

Which characters are white space, where lines end, and the three things the generator does
with them: trimming a text, collapsing its blank runs, and indenting its lines. All work on
lists of characters, so that each is a plain recursion on the text.
-/
namespace OperationClasses.Text

/-- White space of any script: the control characters that move the carriage, the separators
of fields and records, and the spaces of Unicode. -/
def isBlank (c : Char) : Bool :=
  let n := c.toNat
  (9 ≤ n && n ≤ 13) || (28 ≤ n && n ≤ 32) || n == 0x85 || n == 0xa0 || n == 0x1680 ||
    (0x2000 ≤ n && n ≤ 0x200a) || n == 0x2028 || n == 0x2029 || n == 0x202f || n == 0x205f ||
    n == 0x3000

/-- Characters that end a line. -/
def isLineBreak (c : Char) : Bool :=
  let n := c.toNat
  (10 ≤ n && n ≤ 13) || (28 ≤ n && n ≤ 30) || n == 0x85 || n == 0x2028 || n == 0x2029

theorem isBlank_of_isLineBreak {c : Char} (h : isLineBreak c = true) : isBlank c = true := by
  simp only [isLineBreak, isBlank, Bool.or_eq_true, Bool.and_eq_true, decide_eq_true_eq,
    beq_iff_eq] at *
  omega

/-- Without the blanks at either end. -/
def trim (s : List Char) : List Char :=
  (((s.dropWhile isBlank).reverse).dropWhile isBlank).reverse

/-- Each run of blanks becomes one space; `afterBlank` says that a run has already begun. -/
def collapseFrom (afterBlank : Bool) : List Char → List Char
  | [] => []
  | c :: rest =>
    if isBlank c then
      if afterBlank then collapseFrom true rest else ' ' :: collapseFrom true rest
    else c :: collapseFrom false rest

/-- Each run of blanks becomes one space. -/
def collapse (s : List Char) : List Char := collapseFrom false s

/-- The lines of a text without their line breaks. A carriage return and the line feed after
it are one break, and a break at the very end opens no further line. -/
def lines : List Char → List (List Char)
  | [] => []
  | '\r' :: '\n' :: rest => [] :: lines rest
  | c :: rest =>
    if isLineBreak c then [] :: lines rest
    else
      match lines rest with
      | [] => [[c]]
      | l :: ls => (c :: l) :: ls

@[simp] theorem lines_nil : lines [] = [] := by rw [lines]

/-- The number of lines of a text. -/
def lineCount (s : String) : Nat := (lines s.toList).length

/-- Line ends of any convention become line feeds. -/
def unifyLineEnds : List Char → List Char
  | [] => []
  | '\r' :: '\n' :: rest => '\n' :: unifyLineEnds rest
  | '\r' :: rest => '\n' :: unifyLineEnds rest
  | c :: rest => c :: unifyLineEnds rest

/-- One line, moved to the right unless it is empty. -/
def indentLine (width : Nat) (line : List Char) : List Char :=
  if line.isEmpty then [] else List.replicate width ' ' ++ line

/-- The text moved to the right by `width` columns. The first line is moved even when it is
empty, later empty lines stay empty, and every line break becomes a line feed. -/
def indentChars (width : Nat) (s : List Char) : List Char :=
  match lines (s ++ ['\n']) with
  | [] => List.replicate width ' '
  | first :: rest =>
    List.replicate width ' ' ++ first ++ rest.flatMap (fun l => '\n' :: indentLine width l)

/-- The text moved to the right by `width` columns. -/
def indent (width : Nat) (s : String) : String := String.ofList (indentChars width s.toList)

end OperationClasses.Text
