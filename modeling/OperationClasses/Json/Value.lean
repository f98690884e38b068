import OperationClasses.Number.Shortest
import OperationClasses.Text.Quoted

/-!
# JSON values

Objects keep their members in the order of the text. A key that occurs twice keeps both
members, and looking it up finds the later one.
-/
namespace OperationClasses

/-- A JSON value. Numbers without fraction and exponent are integers; other numbers keep their
spelling. -/
inductive Json where
  | null
  | bool (value : Bool)
  | int (value : Int)
  | decimal (spelling : String)
  | string (text : String)
  | array (items : List Json)
  | object (members : List (String × Json))
  deriving Repr, Inhabited

namespace Json

/-- The last member under a key. -/
def lookup? (members : List (String × Json)) (key : String) : Option Json :=
  members.reverse.lookup key

/-- The member of an object under a key; none for any other value. -/
def get? (v : Json) (key : String) : Option Json :=
  match v with
  | .object members => lookup? members key
  | _ => none

/-- The text of a string. -/
def text? : Json → Option String
  | .string s => some s
  | _ => none

/-- The items of an array. -/
def items? : Json → Option (List Json)
  | .array items => some items
  | _ => none

/-- The members of an object. -/
def members? : Json → Option (List (String × Json))
  | .object members => some members
  | _ => none

/-- The value of a boolean. -/
def bool? : Json → Option Bool
  | .bool b => some b
  | _ => none

/-- The value of an integer. -/
def int? : Json → Option Int
  | .int n => some n
  | _ => none

mutual

/-- The value as a literal of the generated module: capitalized constants, escaped strings,
items in brackets and members in braces. -/
def literal : Json → String
  | .null => "None"
  | .bool true => "True"
  | .bool false => "False"
  | .int n => toString n
  | .decimal spelling => Number.canonical spelling
  | .string s => Text.escaped s
  | .array items => "[" ++ ", ".intercalate (literals items) ++ "]"
  | .object members => "\x7b" ++ ", ".intercalate (memberLiterals members) ++ "\x7d"

def literals : List Json → List String
  | [] => []
  | v :: rest => v.literal :: literals rest

def memberLiterals : List (String × Json) → List String
  | [] => []
  | (key, v) :: rest => (Text.escaped key ++ ": " ++ v.literal) :: memberLiterals rest

end

/-- What sort of value it is, as the generated module's language calls it. -/
def sort : Json → String
  | .null => "NoneType"
  | .bool _ => "bool"
  | .int _ => "int"
  | .decimal _ => "float"
  | .string _ => "str"
  | .array _ => "list"
  | .object _ => "dict"

mutual

/-- Whether an integer of more than 4300 digits is in the value. Such integers have no literal. -/
def hasLongInteger : Json → Bool
  | .int n => 4300 < (toString n.natAbs).length
  | .array items => anyLongInteger items
  | .object members => anyLongMember members
  | _ => false

def anyLongInteger : List Json → Bool
  | [] => false
  | v :: rest => v.hasLongInteger || anyLongInteger rest

def anyLongMember : List (String × Json) → Bool
  | [] => false
  | (_, v) :: rest => v.hasLongInteger || anyLongMember rest

end

/-- The beginning and the end of a text of more than 240 characters. -/
def shorten (text : String) : String :=
  if text.length ≤ 240 then text
  else
    let cs := text.toList
    String.ofList (cs.take 118 ++ ['.', '.', '.'] ++ cs.drop (cs.length - 119))

/-- Of more than ten texts the first five and the last four, with dots between them. -/
def thin (texts : List String) : List String :=
  if texts.length ≤ 10 then texts
  else texts.take 5 ++ "..." :: texts.drop (texts.length - 4)

mutual

/-- The value as a literal that is cut where it would be long; `levels` bounds how many lists and
objects are opened inside each other. -/
def excerptWithin (levels : Nat) : Json → String
  | .null => "None"
  | .bool true => "True"
  | .bool false => "False"
  | .int n => shorten (toString n)
  | .decimal spelling => Number.canonical spelling
  | .string s => shorten (Text.escaped s)
  | .array [] => "[]"
  | .object [] => "\x7b\x7d"
  | .array items =>
    match levels with
    | 0 => "[...]"
    | levels + 1 => "[" ++ ", ".intercalate (thin (excerpts levels items)) ++ "]"
  | .object members =>
    match levels with
    | 0 => "\x7b...\x7d"
    | levels + 1 => "\x7b" ++ ", ".intercalate (thin (memberExcerpts levels members)) ++ "\x7d"

def excerpts (levels : Nat) : List Json → List String
  | [] => []
  | v :: rest => excerptWithin levels v :: excerpts levels rest

def memberExcerpts (levels : Nat) : List (String × Json) → List String
  | [] => []
  | (key, v) :: rest =>
    (shorten (Text.escaped key) ++ ": " ++ excerptWithin levels v) :: memberExcerpts levels rest

end

/-- The value as a literal of bounded size: three levels, ten items each, 240 characters for a
string. -/
def excerpt (v : Json) : String := excerptWithin 3 v

/-- The value inside running text: a string stands as it is, all else as its literal. -/
def display : Json → String
  | .string s => s
  | v => v.literal

end Json

end OperationClasses
