import OperationClasses.Json.Reader
import OperationClasses.Target.Registry

/-!
# Configuration

The options of a run. They are given as a JSON object whose members may use either of two
spellings for the reserved words and for the table of overrides; the first spelling wins even
when its value is null. All faults of the object are found, field by field. What the options
leave open is taken from the target.
-/
namespace OperationClasses

/-- The options of a run. -/
structure Config where
  target : String := "csharp"
  /-- Identifiers to escape, if not the target's. -/
  reservedWords? : Option (List String) := none
  /-- Type names by printed reference, if not the target's. -/
  typeOverrides? : Option (List (String × String)) := none
  namespaceName : String := "AppSync.Operations"
  clientInterface : String := "IAppSyncClient"
  deriving Repr, DecidableEq, Inhabited

/-- A step into a configuration: to a member or to an item. -/
inductive ConfigStep where
  | key (name : String)
  | index (n : Nat)
  deriving Repr, DecidableEq

/-- What is wrong at a place of a configuration. -/
inductive ConfigFault where
  | notAString | notASet | notATable | notAnObject | notJson
  deriving Repr, DecidableEq

def ConfigStep.text : ConfigStep → String
  | .key name => name
  | .index n => toString n

def ConfigFault.text : ConfigFault → String
  | .notAString => "a string is expected"
  | .notASet => "an array of strings is expected"
  | .notATable => "an object of strings is expected"
  | .notAnObject => "an object is expected"
  | .notJson => "the text is not JSON"

/-- A fault and where it is. -/
structure ConfigProblem where
  fault : ConfigFault
  place : List ConfigStep
  deriving Repr, DecidableEq

def ConfigProblem.message (p : ConfigProblem) : String :=
  if p.place.isEmpty then p.fault.text
  else ".".intercalate (p.place.map (·.text)) ++ ": " ++ p.fault.text

namespace Config

/-- A value, or what is wrong with it. -/
abbrev Checked (α : Type) := Except (List ConfigProblem) α

/-- All faults of the items, or all values. -/
def collect {α β : Type} (check : α → Checked β) : List α → Checked (List β)
  | [] => .ok []
  | x :: rest =>
    match check x, collect check rest with
    | .ok y, .ok ys => .ok (y :: ys)
    | .ok _, .error ps => .error ps
    | .error ps, .ok _ => .error ps
    | .error ps, .error qs => .error (ps ++ qs)

def checkString (place : List ConfigStep) : Json → Checked String
  | .string s => .ok s
  | _ => .error [⟨.notAString, place⟩]

/-- A set of strings, given as an array. -/
def checkSet (place : List ConfigStep) : Json → Checked (Option (List String))
  | .null => .ok none
  | .array items =>
    (collect (fun p : Json × Nat => checkString (place ++ [.index p.2]) p.1) items.zipIdx).map
      (some ·.eraseDups)
  | _ => .error [⟨.notASet, place⟩]

/-- Puts a value under a key; a value that was there before is replaced in its place. -/
def put (key value : String) : List (String × String) → List (String × String)
  | [] => [(key, value)]
  | (k, v) :: rest => if k = key then (k, value) :: rest else (k, v) :: put key value rest

/-- A table from strings to strings, given as an object. -/
def checkTable (place : List ConfigStep) : Json → Checked (Option (List (String × String)))
  | .null => .ok none
  | .object members =>
    (collect (fun m : String × Json =>
      (checkString (place ++ [.key m.1]) m.2).map (m.1, ·)) members).map fun entries =>
        some (entries.foldl (fun table e => put e.1 e.2 table) [])
  | _ => .error [⟨.notATable, place⟩]

/-- The first of several spellings that is given, checked; the default when none is. -/
def field {α : Type} (members : List (String × Json)) (spellings : List String) (default : α)
    (check : List ConfigStep → Json → Checked α) : Checked α :=
  match spellings.find? fun s => (Json.lookup? members s).isSome with
  | none => .ok default
  | some spelling =>
    match Json.lookup? members spelling with
    | some v => check [.key spelling] v
    | none => .ok default

/-- The faults of a value; none when it is fine. -/
def faults {α : Type} : Checked α → List ConfigProblem
  | .ok _ => []
  | .error ps => ps

/-- Reads the options from a value. -/
def ofJson : Json → Checked Config
  | .object members =>
    let initial : Config := {}
    let target := field members ["target"] initial.target checkString
    let words := field members ["netKeywords", "reserved_words"] none checkSet
    let table := field members ["netTypes", "type_overrides"] none checkTable
    let space := field members ["namespace"] initial.namespaceName checkString
    let client := field members ["client_interface"] initial.clientInterface checkString
    match target, words, table, space, client with
    | .ok target, .ok words, .ok table, .ok space, .ok client =>
      .ok ⟨target, words, table, space, client⟩
    | target, words, table, space, client =>
      .error (faults target ++ faults words ++ faults table ++ faults space ++ faults client)
  | _ => .error [⟨.notAnObject, []⟩]

/-- Reads the options from a JSON text. -/
def ofText (text : String) : Checked Config :=
  match Json.read? Json.defaultDepth text with
  | some v => ofJson v
  | none => .error [⟨.notJson, []⟩]

/-- The identifiers to escape. -/
def reservedWords (c : Config) (t : Target) : List String := c.reservedWords?.getD t.reservedWords

/-- The type names by printed reference. -/
def typeOverrides (c : Config) (t : Target) : List (String × String) :=
  c.typeOverrides?.getD t.overrides

end Config

end OperationClasses
