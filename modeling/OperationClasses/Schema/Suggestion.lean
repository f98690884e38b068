import OperationClasses.Text.Case

/-!
# Suggestions

Names close to a misspelled one. The distance of two names counts insertions, deletions,
replacements and exchanges of neighbours, without regard to case; a difference in case alone
counts one. Close means at most two fifths of the misspelled name's length and one more.
-/
namespace OperationClasses.Schema.Suggestion

/-- The next row of the distance table. `above` and `aboveThat` are the rows of the two
characters before, `previous?` is the character before `a`. -/
def nextRow (a : Char) (previous? : Option Char) (b : Array Char) (above aboveThat : Array Nat)
    (index : Nat) : Array Nat :=
  (List.range b.size).foldl
    (fun row j =>
      let change := if b[j]? = some a then 0 else 1
      let plain := min (above.getD (j + 1) 0 + 1)
        (min (row.getD j 0 + 1) (above.getD j 0 + change))
      let swapped := 0 < j && b[j - 1]? = some a && b[j]? = previous? && previous?.isSome
      row.push (if swapped then min plain (aboveThat.getD (j - 1) 0 + 1) else plain))
    #[index]

/-- The last row of the distance table of two texts. -/
def lastRow (b : Array Char) :
    Option Char → Array Nat → Array Nat → Nat → List Char → Array Nat
  | _, above, _, _, [] => above
  | previous?, above, aboveThat, index, a :: rest =>
    lastRow b (some a) (nextRow a previous? b above aboveThat index) above (index + 1) rest

/-- The distance of two texts. -/
def editDistance (a b : List Char) : Nat :=
  let row := lastRow b.toArray none (List.range (b.length + 1)).toArray #[] 1 a
  row.getD b.length 0

/-- The distance of two names. -/
def distance (input option : String) : Nat :=
  if input = option then 0
  else
    let a := Text.lower input.toList
    let b := Text.lower option.toList
    if a = b then 1 else editDistance b a

/-- A stretch of a name: digits, which count by their value, or anything else. -/
inductive Stretch where
  | word (text : String)
  | number (value : Nat) (digits : String)
  deriving Repr, DecidableEq

/-- Words and numbers of a name in turn, beginning and ending with a word, which may be empty. -/
def stretches : Nat → List Char → List Stretch
  | 0, _ => []
  | fuel + 1, s =>
    let word := s.takeWhile (!Char.isDigit ·)
    let rest := s.drop word.length
    let digits := rest.takeWhile Char.isDigit
    .word (String.ofList word) ::
      if digits.isEmpty then []
      else .number (digits.foldl (fun n d => 10 * n + (d.toNat - '0'.toNat)) 0)
          (String.ofList digits) :: stretches fuel (rest.drop digits.length)

/-- The order of two stretches at the same place: words by their characters, numbers by value and
then by their digits. -/
def Stretch.order : Stretch → Stretch → Ordering
  | .word a, .word b => compare a b
  | .number n a, .number m b => (compare n m).then (compare a b)
  | .word _, .number .. => .lt
  | .number .., .word _ => .gt

/-- Stretch by stretch; a name comes before those that it begins. -/
def stretchesLe : List Stretch → List Stretch → Bool
  | [], _ => true
  | _ :: _, [] => false
  | a :: as, b :: bs =>
    match a.order b with
    | .lt => true
    | .gt => false
    | .eq => stretchesLe as bs

/-- Alphabetical order in which numbers count by value. -/
def naturalLe (a b : String) : Bool :=
  stretchesLe (stretches (a.length + 1) a.toList) (stretches (b.length + 1) b.toList)

/-- The options close to a name, the closest first. -/
def suggest (input : String) (options : List String) : List String :=
  let threshold := input.length * 2 / 5 + 1
  let near := (options.eraseDups.map fun o => (distance input o, o)).filter (·.1 ≤ threshold)
  (near.mergeSort fun x y => if x.1 = y.1 then naturalLe x.2 y.2 else x.1 < y.1).map (·.2)

/-- The question that a message ends with; nothing when there is no suggestion. -/
def question (suggestions : List String) : String :=
  let quoted := (suggestions.take 5).map fun s => "'" ++ s ++ "'"
  match quoted.reverse with
  | [] => ""
  | [a] => " Did you mean " ++ a ++ "?"
  | [b, a] => " Did you mean " ++ a ++ " or " ++ b ++ "?"
  | last :: rest => " Did you mean " ++ ", ".intercalate rest.reverse ++ ", or " ++ last ++ "?"

end OperationClasses.Schema.Suggestion
