import OperationClasses.Syntax.Document

/-!
# Type references

Views of a type reference: whether it is required, its element behind all list wrappers, the
text that overrides are looked up by, and how a diagnostic shows it. What a program has put in
the place of a name may have none of these, and then reading it breaks off.
-/
namespace OperationClasses

namespace TypeRef

/-- Whether the reference is required at its outermost level. -/
def isRequired : TypeRef → Bool
  | .nonNull _ => true
  | _ => false

/-- The reference behind every list wrapper, with its own mark. -/
def element : TypeRef → TypeRef
  | .list e => e.element
  | .nonNull (.list e) => e.element
  | t => t

end TypeRef

/-- How a diagnostic shows what is no reference. -/
def Stray.shown : Stray → String
  | .value v => v.literal
  | .unresolved u =>
    "UnresolvedType(provenance=" ++ Text.escaped u.provenance ++ ", detail=" ++
      Text.escaped u.detail ++ ")"

namespace TypeRef

/-- How a diagnostic shows the reference: the outermost kind of reference, or the value that is
none. -/
def shown : TypeRef → String
  | .named _ | .misnamed _ | .tableNamed _ => "NamedTypeNode"
  | .list _ => "ListTypeNode"
  | .nonNull _ => "NonNullTypeNode"
  | .other stray => stray.shown

/-- A wrapper needs something inside. -/
def nonEmpty? (s : String) : Option String := if s = "" then none else some s

/-- The text of a table; the empty one counts as nothing inside a wrapper. -/
def tableText (members : List (String × Json)) : String :=
  if members.isEmpty then "" else (Json.object members).literal

/-- The reference as it is written in a document; none when there is no name at its heart, or
a wrapper around an empty one. -/
def signature? : TypeRef → Option String
  | .named name => name
  | .list e => (e.signature?.bind nonEmpty?).map fun s => "[" ++ s ++ "]"
  | .nonNull t => (t.signature?.bind nonEmpty?).map (· ++ "!")
  | .tableNamed members => some (tableText members)
  | .misnamed _ => none
  | .other _ => none

/-- The text that overrides are looked up by. -/
def key? : TypeRef → Option String
  | .tableNamed _ => none
  | t => t.signature?

theorem signature?_of_key? {t : TypeRef} {key : String} (h : t.key? = some key) :
    t.signature? = some key := by
  cases t <;> first | exact h | cases h

/-- The name at the heart of a reference. -/
def name? : TypeRef → Option String
  | .named name => name
  | .list e => e.name?
  | .nonNull t => t.name?
  | .misnamed _ => none
  | .tableNamed _ => none
  | .other _ => none

/-- Why reading a reference breaks off. -/
inductive Fault where
  /-- A value of the named sort has no text for a name. -/
  | noName (sort : String)
  /-- A table cannot be looked up in another table. -/
  | unhashable
  /-- An integer has too many digits to be shown. -/
  | longInteger
  deriving Repr, DecidableEq, Inhabited

def Fault.message : Fault → String
  | .noName sort => "'" ++ sort ++ "' object has no attribute 'value'"
  | .unhashable => "unhashable type: 'dict'"
  | .longInteger => "Exceeds the limit (4300 digits) for integer string conversion; " ++
      "use sys.set_int_max_str_digits() to increase the limit"

/-- What sort of thing stands inside a reference, where lists are kept as tuples. -/
def sort : TypeRef → String
  | .other (.value (.array _)) => "tuple"
  | .other (.value v) => v.sort
  | .other (.unresolved _) => "UnresolvedType"
  | t => t.shown

/-- Why something is no name; nothing at all is a name that is missing. -/
def nameFault? : TypeRef → Option Fault
  | .other (.value .null) => none
  | t => some (.noName t.sort)

/-- Why a wrapper cannot be written around the text of a reference. -/
def textFault? : TypeRef → Option Fault
  | .tableNamed members =>
    if (Json.object members).hasLongInteger then some .longInteger else none
  | _ => none

/-- Why a reference cannot be written as in a document. -/
def signatureFault? : TypeRef → Option Fault
  | .list e => e.signatureFault?.or e.textFault?
  | .nonNull t => t.signatureFault?.or t.textFault?
  | .misnamed inside => inside.nameFault?
  | .named _ | .tableNamed _ | .other _ => none

/-- Why a diagnostic cannot show a reference. -/
def shownFault? : TypeRef → Option Fault
  | .other (.value v) => if v.hasLongInteger then some .longInteger else none
  | _ => none

/-- Why the name at the heart of a reference cannot be looked up. -/
def heartFault? : TypeRef → Option Fault
  | .list e => e.heartFault?
  | .nonNull t => t.heartFault?
  | .misnamed inside => inside.nameFault?
  | .tableNamed _ => some .unhashable
  | .named _ | .other _ => none

end TypeRef

end OperationClasses
