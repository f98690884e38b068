import OperationClasses.Text.CaseTables

/-!
# Letter case

Lower and title forms of text, for all scripts. A capital sigma is lowered to the form for the
end of a word when a cased letter stands before it and none follows; which letters those are
is decided across characters that carry no case of their own.
-/
namespace OperationClasses.Text

/-- The image of a character under a table of runs; itself when no run holds it. -/
def moveBy (runs : List CaseRun) (c : Char) : Char :=
  match runs.find? (·.holds c.toNat) with
  | some r => Char.ofNat (c.toNat + r.shift).toNat
  | none => c

/-- Whether a code point lies in one of the ranges. -/
def inRanges (ranges : List (Nat × Nat)) (n : Nat) : Bool :=
  ranges.any fun r => r.1 ≤ n && n ≤ r.2

/-- Passed over when a capital sigma looks for its neighbours. -/
def isCaseIgnorable (c : Char) : Bool := inRanges caseIgnorableRanges c.toNat

/-- A letter with a case, other than one that is passed over. -/
def isCased (c : Char) : Bool :=
  if c.toNat < 0x80 then c.isAlpha else inRanges casedRanges c.toNat

/-- The lower form of one character, a capital sigma aside. -/
def lowerChar (c : Char) : List Char :=
  if c.toNat < 0x80 then [c.toLower]
  else if c.toNat = 0x130 then ['i', Char.ofNat 0x307]
  else [moveBy lowerRuns c]

/-- Whether the first character that is not passed over is cased. -/
def startsCased (s : List Char) : Bool :=
  match s.dropWhile isCaseIgnorable with
  | [] => false
  | c :: _ => isCased c

/-- Lowers a text that follows others; `afterCased` says that the last character before it
that is not passed over is cased. -/
def lowerFrom (afterCased : Bool) : List Char → List Char
  | [] => []
  | c :: rest =>
    let after := if isCaseIgnorable c then afterCased else isCased c
    if c.toNat = 0x3a3 then
      Char.ofNat (if afterCased && !startsCased rest then 0x3c2 else 0x3c3) :: lowerFrom after rest
    else lowerChar c ++ lowerFrom after rest

/-- The lower form of a text. -/
def lower (s : List Char) : List Char := lowerFrom false s

/-- The title form of one character. -/
def titleChar (c : Char) : List Char :=
  if c.toNat < 0x80 then [c.toUpper]
  else match titleExpansions.lookup c.toNat with
    | some cs => cs.map Char.ofNat
    | none => [moveBy titleRuns c]

/-- The first character in title form, the others in lower form. -/
def capitalize : List Char → List Char
  | [] => []
  | c :: rest =>
    titleChar c ++ lowerFrom (if isCaseIgnorable c then false else isCased c) rest

/-- The lower form of a text. -/
def lowerText (s : String) : String := String.ofList (lower s.toList)

/-- The first character in title form, the others in lower form. -/
def capitalizeText (s : String) : String := String.ofList (capitalize s.toList)

end OperationClasses.Text
