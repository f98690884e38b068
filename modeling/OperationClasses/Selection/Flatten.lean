import OperationClasses.Syntax.Document

/-!
# Flattened selections

The fields that a selection set selects at its own level: those it names, and those of its
inline fragments and of the fragments it spreads, in the order of the text. A spread is cut when
its fragment is already being expanded, so that fragments may spread each other in circles. A
spread of a fragment that is not defined is listed too.
-/
namespace OperationClasses

open Syntax

/-- The fragments of a document. -/
abbrev Fragments := List Fragment

namespace Fragments

/-- The fragments that a document defines. -/
def ofDocument (doc : Document) : Fragments := doc.filterMap Definition.fragment?

/-- The fragment of a name; of several, the last one. -/
def find? (fs : Fragments) (name : String) : Option Fragment :=
  fs.reverse.find? (·.name = name)

/-- The names in the order of their first definition. -/
def names (fs : Fragments) : List String := (fs.map (·.name)).eraseDups

end Fragments

namespace Selection

/-- A field or an undefined spread as it occurs at a level. The condition is that of the
innermost fragment around it within the level. -/
inductive Occurrence where
  | field (node : FieldNode) (condition? : Option String)
  | undefinedSpread (node : SpreadNode)
  deriving Repr, Inhabited

mutual

/-- The occurrences of one selection, given what a spread expands to. -/
def flattenOne (expand : SpreadNode → List Occurrence) (condition? : Option String) :
    Syntax.Selection → List Occurrence
  | .field alias? name args ds inner? offset =>
    [.field ⟨alias?, name, args, ds, inner?, offset⟩ condition?]
  | .inline inner? _ selections => flattenAll expand (inner?.or condition?) selections
  | .spread name ds offset => expand ⟨name, ds, offset⟩

def flattenAll (expand : SpreadNode → List Occurrence) (condition? : Option String) :
    List Syntax.Selection → List Occurrence
  | [] => []
  | s :: rest => flattenOne expand condition? s ++ flattenAll expand condition? rest

end

/-- The occurrences of a selection set inside the fragments of `path`. The first argument
bounds how many fragments can be expanded inside each other. -/
def flattenWithin (fragments : Fragments) :
    Nat → List String → Option String → List Syntax.Selection → List Occurrence
  | 0, _, _, _ => []
  | n + 1, path, condition?, selections =>
    flattenAll (fun spread =>
      if path.contains spread.name then []
      else match fragments.find? spread.name with
        | none => [.undefinedSpread spread]
        | some f => flattenWithin fragments n (spread.name :: path) (some f.condition) f.selections)
      condition? selections

/-- The occurrences of a selection set at its level. Fragments on a path are distinct, so
their number bounds the nesting of expansions. -/
def flatten (fragments : Fragments) (selections : List Syntax.Selection) : List Occurrence :=
  flattenWithin fragments (fragments.names.length + 1) [] none selections

end Selection

end OperationClasses
