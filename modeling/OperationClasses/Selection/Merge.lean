import OperationClasses.Selection.Flatten

/-!
# Merged selections

Occurrences of one response key are one field of the answer. The first occurrence says what the
field is and under which condition it stands; the selection sets of all of them are merged one
level down. A key that is first met as an undefined spread stays one.

The result is a tree of fields without fragments. It is finite exactly when no fragment leads
back to itself through a field, and then its depth is bounded by that of the selections in the
text.
-/
namespace OperationClasses.Selection

open Syntax

/-- What a response key stands for: the first of its occurrences. -/
inductive Origin where
  | field (node : FieldNode) (condition? : Option String)
  | undefinedSpread (node : SpreadNode)
  deriving Repr, Inhabited

/-- A response key with the selection sets of its occurrences. -/
structure Group where
  key : String
  origin : Origin
  sets : List (List Syntax.Selection)
  deriving Repr, Inhabited

/-- Adds an occurrence of a field. -/
def addField (node : FieldNode) (condition? : Option String) : List Group → List Group
  | [] => [⟨node.key, .field node condition?, node.selections?.toList⟩]
  | g :: gs =>
    if g.key = node.key then { g with sets := g.sets ++ node.selections?.toList } :: gs
    else g :: addField node condition? gs

/-- Adds an undefined spread, which takes a key of its own unless the key is in use. -/
def addSpread (node : SpreadNode) : List Group → List Group
  | [] => [⟨node.name, .undefinedSpread node, []⟩]
  | g :: gs => if g.key = node.name then g :: gs else g :: addSpread node gs

/-- Adds an occurrence. -/
def addOccurrence (gs : List Group) : Occurrence → List Group
  | .field node condition? => addField node condition? gs
  | .undefinedSpread node => addSpread node gs

/-- Occurrences by response key, in the order of the first occurrences. -/
def group (occurrences : List Occurrence) : List Group := occurrences.foldl addOccurrence []

/-- The undefined spreads among the occurrences. -/
def undefinedSpreads (occurrences : List Occurrence) : List String :=
  occurrences.filterMap fun o =>
    match o with
    | .undefinedSpread node => some node.name
    | .field .. => none

/-- A field of the answer. -/
inductive Merged where
  | leaf (node : FieldNode) (condition? : Option String)
  | object (node : FieldNode) (condition? : Option String) (spreads : List String)
      (members : List Merged)
  | undefinedSpread (node : SpreadNode)
  deriving Repr, Inhabited

/-- The fields of the answer at one level, and the undefined spreads met there. -/
structure Level where
  spreads : List String
  members : List Merged
  deriving Repr, Inhabited

mutual

/-- The number of levels that a selection opens in the text. -/
def depth : Syntax.Selection → Nat
  | .field _ _ _ _ inner? _ =>
    match inner? with
    | some inner => depthAll inner + 1
    | none => 0
  | .inline _ _ inner => depthAll inner
  | .spread .. => 0

def depthAll : List Syntax.Selection → Nat
  | [] => 0
  | s :: rest => max (depth s) (depthAll rest)

end

/-- Merges selection sets level by level; none when more levels would be needed. -/
def mergeWithin (fragments : Fragments) : Nat → List (List Syntax.Selection) → Option Level
  | 0, _ => none
  | n + 1, sets => do
    let occurrences := sets.flatMap (flatten fragments)
    let members ← (group occurrences).mapM fun g =>
      match g.origin with
      | .undefinedSpread node => some (.undefinedSpread node)
      | .field node condition? =>
        if g.sets.isEmpty then some (.leaf node condition?)
        else (mergeWithin fragments n g.sets).map fun l =>
          .object node condition? l.spreads l.members
    return ⟨undefinedSpreads occurrences, members⟩

/-- The most levels that a finite tree can have. -/
def depthBound (fragments : Fragments) (sets : List (List Syntax.Selection)) : Nat :=
  (sets.map depthAll).foldr (· + ·) 0 +
    (fragments.map fun f => depthAll f.selections).foldr (· + ·) 0 + 1

/-- Merges selection sets; none when a fragment leads back to itself through a field. -/
def merge? (fragments : Fragments) (sets : List (List Syntax.Selection)) : Option Level :=
  mergeWithin fragments (depthBound fragments sets) sets

end OperationClasses.Selection
