import OperationClasses.Json.Value
import OperationClasses.Schema.Basic
import OperationClasses.Schema.Given
import OperationClasses.Schema.Kind

/-!
# Default values

A default value is the value that its literal stands for at the type it is given to. A literal
that does not fit the type stands for none, and then there is no default. A single value stands
for a list of one; the fields that an object leaves out take their own defaults, so that the
fields of an input type are put together before an object can be read at it.

Values of custom scalars are taken as they are written.
-/
namespace OperationClasses.Schema

open Syntax

/-- A field of an input type that was put together. -/
structure InputField where
  name : String
  type : TypeRef
  default? : Option Json
  deriving Inhabited

/-- The longest whole number that a literal may spell, in digits. -/
def digitLimit : Nat := 4300

/-- The whole number that a literal spells, unless it is too long. -/
def wholeNumber? (digits : String) : Option Int :=
  let n := Number.Numeral.read digits
  if Number.width n.digits ≤ digitLimit then
    some (if n.isNegative then -(n.digits : Int) else n.digits)
  else none

/-- A number of 32 bits. -/
def isShort (n : Int) : Bool := -0x80000000 ≤ n && n < 0x80000000

mutual

/-- The value that a literal stands for without regard to a type. -/
def plainValue? : Value → Option Json
  | .variable _ => none
  | .int digits => (wholeNumber? digits).map .int
  | .float spelling => some (.decimal spelling)
  | .string text => some (.string text)
  | .block text => some (.string text)
  | .boolean b => some (.bool b)
  | .null => some .null
  | .enum name => some (.string name)
  | .list items => (plainValues? items).map .array
  | .object fields => (plainMembers? fields).map .object

def plainValues? : List Value → Option (List Json)
  | [] => some []
  | v :: rest => do return (← plainValue? v) :: (← plainValues? rest)

def plainMembers? : List (String × Value) → Option (List (String × Json))
  | [] => some []
  | (name, v) :: rest => do return (name, ← plainValue? v) :: (← plainMembers? rest)

end

/-- The value that a literal stands for at a scalar. -/
def scalarValue? (name : String) (v : Value) : Option Json :=
  match name, v with
  | "Int", .int digits =>
    (wholeNumber? digits).bind fun n => if isShort n then some (.int n) else none
  | "Float", .int spelling | "Float", .float spelling => some (.decimal spelling)
  | "String", .string text | "String", .block text | "ID", .string text | "ID", .block text =>
    some (.string text)
  | "ID", .int digits => some (.string digits)
  | "Boolean", .boolean b => some (.bool b)
  | _, v => if Standard.scalars.contains name then none else plainValue? v

/-- The value that a literal stands for at an enumeration. -/
def enumValue? (names : List String) : Value → Option Json
  | .enum name => if names.contains name then some (.string name) else none
  | _ => none

/-- The names of the values of an enumeration. -/
def valueNames (types : List TypeDefinition) (name : String) : List String :=
  ((defined? types name).elim [] (·.enumValues)).map (·.name)

/-- Whether exactly one field of a type has to be given. -/
def isOneOf (d : TypeDefinition) : Bool := d.directives.any (·.name = "oneOf")

/-- An object with the members in the order of the fields; at a type of which one field has to be
given, there must be one member, which must not be missing. -/
def objectValue? (oneOf : Bool) (members : List (String × Json)) : Option Json :=
  if oneOf then
    match members with
    | [(_, .null)] => none
    | [_] => some (.object members)
    | _ => none
  else some (.object members)

/-- How the fields of an input type are found. -/
abbrev FieldLookup := TypeDefinition → Except MemberError (List InputField)

section

variable (types : List TypeDefinition) (fieldsOf : FieldLookup)

/-- What becomes of a literal at a named type, given how an object is read at an input type. -/
def namedValue (object : TypeDefinition → Except MemberError (Option Json)) (name : String)
    (v : Value) : Except MemberError (Option Json) :=
  match kindOf? types name with
  | some .scalar => .ok (scalarValue? name v)
  | some .enum => .ok (enumValue? (valueNames types name) v)
  | some .input =>
    match defined? types name with
    | some d => object d
    | none => .ok none
  | _ => .error ⟨[], .notAnInput name⟩

mutual

/-- The value that a literal stands for at a type; none when it does not fit. -/
def valueAt : TypeRef → Value → Except MemberError (Option Json)
  | .nonNull t, v =>
    match v with
    | .null => .ok none
    | v => valueAt t v
  | .list t, v =>
    match v with
    | .null => .ok (some .null)
    | .list items => do return (← itemsAt t items).map .array
    | v => do return (← valueAt t v).map fun x => .array [x]
  | .named name?, v =>
    match v with
    | .null => .ok (some .null)
    | .object fields =>
      namedValue types (fun d => do
        let members ← membersAt fields (← fieldsOf d)
        return members.bind (objectValue? (isOneOf d))) (name?.getD "") (.object fields)
    | v => namedValue types (fun _ => .ok none) (name?.getD "") v
  | .misnamed _, _ | .tableNamed _, _ | .other _, _ => .ok none
  termination_by t v => (sizeOf v, sizeOf t)

def itemsAt (t : TypeRef) : List Value → Except MemberError (Option (List Json))
  | [] => .ok (some [])
  | v :: rest => do
    match ← valueAt t v with
    | none => return none
    | some x => return (← itemsAt t rest).map (x :: ·)
  termination_by vs => (sizeOf vs, sizeOf t)

/-- The members of an object at the fields of an input type. -/
def membersAt (given : List (String × Value)) :
    List InputField → Except MemberError (Option (List (String × Json)))
  | [] => .ok (some [])
  | f :: rest => do
    match ← givenAt f.name f.type given with
    | some none => return none
    | some (some x) => return (← membersAt given rest).map ((f.name, x) :: ·)
    | none =>
      match f.default? with
      | some x => return (← membersAt given rest).map ((f.name, x) :: ·)
      | none => if f.type.isRequired then return none else membersAt given rest
  termination_by fs => (sizeOf given, sizeOf fs)

/-- What is given for a field, if anything is: the value at the field's type, or none when it does
not fit. -/
def givenAt (name : String) (t : TypeRef) :
    List (String × Value) → Except MemberError (Option (Option Json))
  | [] => .ok none
  | (key, v) :: rest =>
    if key = name then (valueAt t v).map some else givenAt name t rest
  termination_by given => (sizeOf given, 0)

end

/-- The default that a definition gives, at its type. -/
def defaultOf (d : InputValueDefinition) : Except MemberError (Option Json) :=
  match d.default? with
  | some v => valueAt types fieldsOf d.type v
  | none => .ok none

end

/-- A field of an input type, given how those of others are found. It gets its default, is asked
for the reason of its deprecation, and has its type checked, in this order. -/
def inputField (types : List TypeDefinition) (text : String) (fieldsOf : FieldLookup)
    (f : InputValueDefinition) : Except MemberError InputField := do
  let default? ← defaultOf types fieldsOf f
  StandardArgument.reason.check text f.directives
  if !isInputType types f.type then throw ⟨[], .inputFieldType⟩
  return ⟨f.name, f.type, default?⟩

/-- The fields of an input type. The bound is the number of types that can still be entered
inside each other; a type that is entered again would never be finished. -/
def inputFields (types : List TypeDefinition) (text : String) : Nat → FieldLookup
  | 0, _ => .error ⟨[], .endless⟩
  | n + 1, d =>
    (d.inputFields.mapM (inputField types text (inputFields types text n))).mapError
      (MemberError.inside d.name)

/-- The fields of the input types of a document. -/
def fieldLookup (types : List TypeDefinition) (text : String) : FieldLookup :=
  inputFields types text (types.length + 1)

end OperationClasses.Schema
