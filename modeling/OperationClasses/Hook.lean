import OperationClasses.Syntax.Document
import OperationClasses.Text.Pieces

/-!
# Hooks

What can be done before and after generation: operations can be filtered by the beginning and
end of their names, and a header can be put before the generated text. Hooks run in the order in
which they were added. Fragments and anonymous operations pass every filter.
-/
namespace OperationClasses

open Syntax Text

/-- A parsed document and the path it was read from. -/
structure SourceDocument where
  path : String
  document : Document
  deriving Repr, Inhabited

/-- Conditions on the names of operations; an empty condition is none. -/
structure NameFilter where
  excludePrefix? : Option String := none
  excludeSuffix? : Option String := none
  includePrefix? : Option String := none
  includeSuffix? : Option String := none
  deriving Repr, DecidableEq, Inhabited

namespace NameFilter

/-- Whether a condition is given and holds. -/
def holds (test : String → String → Bool) (name : String) : Option String → Bool
  | some s => s ≠ "" && test name s
  | none => false

/-- Whether a condition is given and fails. -/
def fails (test : String → String → Bool) (name : String) : Option String → Bool
  | some s => s ≠ "" && !test name s
  | none => false

/-- Whether operations of a name pass. -/
def admits (f : NameFilter) (name : String) : Bool :=
  !(holds startsWith name f.excludePrefix? || holds endsWith name f.excludeSuffix? ||
    fails startsWith name f.includePrefix? || fails endsWith name f.includeSuffix?)

/-- Whether a definition passes. -/
def keeps (f : NameFilter) : Definition → Bool
  | .operation o => match o.name? with
    | some name => f.admits name
    | none => true
  | _ => true

/-- The documents with the operations that pass. -/
def apply (f : NameFilter) (docs : List SourceDocument) : List SourceDocument :=
  docs.map fun d => { d with document := d.document.filter f.keeps }

end NameFilter

/-- A text before the generated one. -/
structure Header where
  text : String
  deriving Repr, DecidableEq, Inhabited

/-- Puts the header before a text, with an empty line between them. -/
def Header.apply (h : Header) (content : String) : String :=
  h.text ++ (if ['\n'].isSuffixOf h.text.toList then "\n" else "\n\n") ++ content

/-- The hooks of a run. -/
structure Hooks where
  filters : List NameFilter := []
  headers : List Header := []
  deriving Repr, DecidableEq, Inhabited

namespace Hooks

def addFilter (h : Hooks) (f : NameFilter) : Hooks := { h with filters := h.filters ++ [f] }

def addHeader (h : Hooks) (header : Header) : Hooks := { h with headers := h.headers ++ [header] }

/-- The documents that are left to generate from. -/
def before (h : Hooks) (docs : List SourceDocument) : List SourceDocument :=
  h.filters.foldl (fun docs f => f.apply docs) docs

/-- The generated text as it is delivered. -/
def after (h : Hooks) (content : String) : String :=
  h.headers.foldl (fun content header => header.apply content) content

end Hooks

end OperationClasses
