/-!
# Similarity

How much of two texts agrees: the longest run of characters that occurs in both, and then the same
on either side of it. Of equally long runs the one that comes first in the first text counts, and
of its occurrences in the second text the first one. Close to a text are those that agree with it
in at least three fifths of their characters, taken together.
-/
namespace OperationClasses.Text

/-- The length of the common beginning of two texts. -/
def commonBeginning : List Char → List Char → Nat
  | a :: as, b :: bs => if a = b then 1 + commonBeginning as bs else 0
  | _, _ => 0

/-- A run that two texts have in common. -/
structure CommonRun where
  start : Nat
  otherStart : Nat
  length : Nat
  deriving Repr, DecidableEq, Inhabited

/-- The longest common run; of several, the first. -/
def longestRun (a b : List Char) : CommonRun :=
  (List.range a.length).foldl (fun best i =>
    (List.range b.length).foldl (fun best j =>
      let length := commonBeginning (a.drop i) (b.drop j)
      if best.length < length then ⟨i, j, length⟩ else best) best) ⟨0, 0, 0⟩

/-- The number of characters in common runs. The bound is the length of the first text. -/
def agreement : Nat → List Char → List Char → Nat
  | 0, _, _ => 0
  | n + 1, a, b =>
    let run := longestRun a b
    if run.length = 0 then 0
    else
      agreement n (a.take run.start) (b.take run.otherStart) + run.length +
        agreement n (a.drop (run.start + run.length)) (b.drop (run.otherStart + run.length))

/-- A text with the characters in which it agrees with another one, and those of both. -/
structure Likeness where
  text : String
  agreeing : Nat
  total : Nat

/-- How much a text agrees with a given one. -/
def likeness (given text : String) : Likeness :=
  ⟨text, agreement text.length text.toList given.toList, text.length + given.length⟩

/-- Agreement in at least three fifths of all characters. -/
def Likeness.isClose (l : Likeness) : Bool := 3 * l.total ≤ 5 * (2 * l.agreeing)

/-- More agreement comes first; of equally similar texts the alphabetically later one. -/
def Likeness.precedes (l m : Likeness) : Bool :=
  let first := l.agreeing * m.total
  let second := m.agreeing * l.total
  if first = second then decide (m.text ≤ l.text) else second < first

/-- The three texts that are closest to a given one, in alphabetical order. -/
def closest (given : String) (texts : List String) : List String :=
  let close := (texts.map (likeness given)).filter (·.isClose)
  (((close.mergeSort Likeness.precedes).take 3).map (·.text)).mergeSort fun a b => decide (a ≤ b)

end OperationClasses.Text
