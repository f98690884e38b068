import OperationClasses.Text.Pieces
import OperationClasses.Text.Quoted
import OperationClasses.Text.Similarity

/-!
# Arguments

Arguments of a command are options and positional ones. An option is given by its long name,
perhaps with a value behind an equals sign, or by one letter; letters can share a dash, and the
rest of such an argument is the value of the first letter that takes one. Two dashes end the
options. What an option means is left to the command.
-/
namespace OperationClasses.CommandLine

/-- An option as it is written. -/
structure OptionForm (α : Type) where
  key : α
  long : String
  letter? : Option Char
  takesValue : Bool

/-- Why arguments cannot be told apart. -/
inductive ArgumentFault where
  | unknown (name : String) (similar : List String)
  | valueMissing (name : String)
  | valueRefused (name : String)
  deriving Repr, DecidableEq

/-- The question that follows a name nobody knows; nothing when no name is similar. -/
def question : List String → String
  | [] => ""
  | [name] => " Did you mean " ++ Text.escaped name ++ "?"
  | names => " (Did you mean one of: " ++ ", ".intercalate (names.map Text.escaped) ++ "?)"

def ArgumentFault.message : ArgumentFault → String
  | .unknown name similar => "No such option " ++ Text.escaped name ++ "." ++ question similar
  | .valueMissing name => "Option " ++ Text.escaped name ++ " requires an argument."
  | .valueRefused name => "Option " ++ Text.escaped name ++ " does not take a value."

/-- An option that was given, with its value if it takes one. -/
abbrev Given (α : Type) := α × String

/-- Arguments told apart. -/
structure Arguments (α : Type) where
  given : List (Given α)
  positional : List String

namespace Arguments

/-- The options of one argument, and whether the next argument is the value of the last one. -/
abbrev Taken (α : Type) := List (Given α) × Bool

/-- An option whose value, if it takes one, is the next argument. -/
def takeNext {α : Type} (f : OptionForm α) (name : String) (next? : Option String) :
    Except ArgumentFault (Taken α) :=
  if f.takesValue then
    match next? with
    | some value => .ok ([(f.key, value)], true)
    | none => .error (.valueMissing name)
  else .ok ([(f.key, "")], false)

/-- Letters behind a dash. -/
def takeLetters {α : Type} (forms : List (OptionForm α)) (next? : Option String) :
    List Char → Except ArgumentFault (Taken α)
  | [] => .ok ([], false)
  | c :: rest =>
    let name := String.ofList ['-', c]
    match forms.find? fun f => f.letter? = some c with
    | none => .error (.unknown name [])
    | some f =>
      if f.takesValue && !rest.isEmpty then .ok ([(f.key, String.ofList rest)], false)
      else do
        let (first, used) ← takeNext f name next?
        let (others, usedLater) ← takeLetters forms next? rest
        return (first ++ others, used || usedLater)

/-- A long name, perhaps with a value behind an equals sign. -/
def splitValue (arg : String) : String × Option String :=
  let name := arg.toList.takeWhile (· ≠ '=')
  match arg.toList.drop name.length with
  | _ :: value => (String.ofList name, some (String.ofList value))
  | [] => (arg, none)

/-- The options of one argument that begins with a dash. -/
def take {α : Type} (forms : List (OptionForm α)) (arg : String) (next? : Option String) :
    Except ArgumentFault (Taken α) :=
  let (name, value?) := splitValue arg
  match forms.find? fun f => f.long = name with
  | some f =>
    match value? with
    | none => takeNext f name next?
    | some value =>
      if f.takesValue then .ok ([(f.key, value)], false) else .error (.valueRefused name)
  | none =>
    if Text.startsWith arg "--" then
      .error (.unknown name (Text.closest name (forms.map (·.long))))
    else takeLetters forms next? (arg.toList.drop 1)

/-- Whether an argument is read as options. -/
def isOption (arg : String) : Bool := Text.startsWith arg "-" && 1 < arg.length

/-- Tells arguments apart. Options are looked for behind positional arguments only if `mixed`. -/
def read {α : Type} (forms : List (OptionForm α)) (mixed : Bool) :
    List String → Except ArgumentFault (Arguments α)
  | [] => .ok ⟨[], []⟩
  | arg :: rest =>
    if arg = "--" then .ok ⟨[], rest⟩
    else if isOption arg then do
      let (given, used) ← take forms arg rest.head?
      let others ← match rest with
        | [] => .ok ⟨[], []⟩
        | value :: later => if used then read forms mixed later else read forms mixed (value :: later)
      return { others with given := given ++ others.given }
    else if mixed then do
      let others ← read forms mixed rest
      return { others with positional := arg :: others.positional }
    else .ok ⟨[], arg :: rest⟩
termination_by args => args.length

/-- The last value given for an option. -/
def value? {α : Type} [DecidableEq α] (a : Arguments α) (key : α) : Option String :=
  a.given.reverse.lookup key

def has {α : Type} [DecidableEq α] (a : Arguments α) (key : α) : Bool := (a.value? key).isSome

/-- The options that were given, in the order in which they first were. -/
def keys {α : Type} [DecidableEq α] (a : Arguments α) : List α := (a.given.map (·.1)).eraseDups

end Arguments

end OperationClasses.CommandLine
