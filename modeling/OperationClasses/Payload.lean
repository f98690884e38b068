import OperationClasses.Selection.Flatten
import OperationClasses.Syntax.Print

/-!
# Payloads

The text that is sent for an operation: its own, followed by the fragments it uses, those
inside fragments included, each once and in the order in which they are first met.
-/
namespace OperationClasses.Payload

open Syntax

mutual

/-- Walks a selection, given what to do at a spread. -/
def walk (spread : String → List String → List String) :
    Syntax.Selection → List String → List String
  | .field _ _ _ _ inner? _, found =>
    match inner? with
    | some inner => walkAll spread inner found
    | none => found
  | .inline _ _ inner, found => walkAll spread inner found
  | .spread name _ _, found => spread name found

def walkAll (spread : String → List String → List String) :
    List Syntax.Selection → List String → List String
  | [], found => found
  | s :: rest, found => walkAll spread rest (walk spread s found)

end

/-- Adds the fragments that selections reach to those found before. The bound is the number of
fragments that can still be entered inside each other. -/
def reach (fragments : Fragments) : Nat → List Syntax.Selection → List String → List String
  | 0, _, found => found
  | n + 1, selections, found =>
    walkAll (fun name found =>
      match fragments.find? name with
      | none => found
      | some f =>
        if found.contains name then found else reach fragments n f.selections (found ++ [name]))
      selections found

/-- The defined fragments that selections use, in the order in which they are first met. -/
def usedFragments (fragments : Fragments) (selections : List Syntax.Selection) : List String :=
  reach fragments (fragments.names.length + 1) selections []

/-- The text that is sent for an operation. -/
def text (o : Operation) (fragments : Fragments) : String :=
  "\n\n".intercalate
    (o.text :: ((usedFragments fragments o.selections).filterMap fragments.find?).map (·.text))

end OperationClasses.Payload
