import OperationClasses.Text.Blank
import OperationClasses.Text.CharacterNames.AtoB
import OperationClasses.Text.CharacterNames.C
import OperationClasses.Text.CharacterNames.DtoG
import OperationClasses.Text.CharacterNames.HtoL
import OperationClasses.Text.CharacterNames.MtoR
import OperationClasses.Text.CharacterNames.StoZ
import OperationClasses.Text.Hex
import OperationClasses.Text.Pieces

/-!
# Names of characters

Which texts are names of characters. Most names, and the further names that some characters
have, stand in tables; letter case does not matter in them. The names of the syllables of Hangul
are put together from those of their parts, and those of the unified ideographs end in their
numbers; in them case does matter.
-/
namespace OperationClasses.Text

/-- The words of a text. -/
def wordsOf (s : List Char) : List (List Char) := (pieces ' ' (trim (collapse s)))

/-- Whether words are those of a name in a row. -/
def isInRow (name : List (List Char)) (row : List Char) : Bool :=
  let common := wordsOf (row.takeWhile (· ≠ ':'))
  let common := if common = [[]] then [] else common
  common.isPrefixOf name &&
    (pieces ',' ((row.dropWhile (· ≠ ':')).drop 1)).any fun ending =>
      let rest := name.drop common.length
      let ending := wordsOf ending
      if ending = [['.']] then rest.isEmpty else rest = ending

/-- The tables of names. -/
def nameTables : List String :=
  [CharacterNames.rowsAtoB, CharacterNames.rowsC, CharacterNames.rowsDtoG,
    CharacterNames.rowsHtoL, CharacterNames.rowsMtoR, CharacterNames.rowsStoZ]

/-- Whether a text is a name in the tables. -/
def isListedName (name : List Char) : Bool :=
  let words := pieces ' ' (name.map Char.toUpper)
  nameTables.any fun table => (pieces ';' table.toList).any (isInRow words)

/-- The beginnings of syllables. -/
def leads : List String :=
  ["", "G", "GG", "N", "D", "DD", "R", "M", "B", "BB", "S", "SS", "J", "JJ", "C", "K", "T", "P", "H"]

/-- The vowels of syllables. -/
def vowels : List String :=
  ["A", "AE", "YA", "YAE", "EO", "E", "YEO", "YE", "O", "WA", "WAE", "OE", "YO", "U", "WEO", "WE",
    "WI", "YU", "EU", "YI", "I"]

/-- The ends of syllables. -/
def tails : List String :=
  ["", "G", "GG", "GS", "N", "NJ", "NH", "D", "L", "LG", "LM", "LB", "LS", "LT", "LP", "LH", "M",
    "B", "BS", "S", "SS", "NG", "J", "C", "K", "T", "P", "H"]

/-- A text without the longest of several beginnings that it has. -/
def dropLongest? (beginnings : List String) (s : List Char) : Option (List Char) :=
  let lengths := (beginnings.filter fun b => b.toList.isPrefixOf s).map (·.length)
  lengths.max?.map s.drop

/-- Whether a text is the name of a syllable. -/
def isSyllableName (name : List Char) : Bool :=
  let start := "HANGUL SYLLABLE ".toList
  start.isPrefixOf name &&
    (do dropLongest? tails (← dropLongest? vowels (← dropLongest? leads (name.drop start.length))))
      = some []

/-- The first and last numbers of unified ideographs. -/
def ideographs : List (Nat × Nat) :=
  [(0x3400, 0x4dbf), (0x4e00, 0x9fff), (0x20000, 0x2a6df), (0x2a700, 0x2b738), (0x2b740, 0x2b81d),
    (0x2b820, 0x2cea1), (0x2ceb0, 0x2ebe0), (0x30000, 0x3134a)]

/-- Whether a text is the name of a unified ideograph. -/
def isIdeographName (name : List Char) : Bool :=
  let start := "CJK UNIFIED IDEOGRAPH-".toList
  let digits := name.drop start.length
  start.isPrefixOf name && (digits.length = 4 || digits.length = 5) &&
    !digits.any Char.isLower &&
    (hexNumber? digits).any fun n => ideographs.any fun (low, high) => low ≤ n && n ≤ high

/-- Whether a text is the name of a character. -/
def isCharacterName (name : List Char) : Bool :=
  isSyllableName name || isIdeographName name || isListedName name

end OperationClasses.Text
