import OperationClasses.Schema.Basic
import OperationClasses.Target.Basic
import OperationClasses.TypeRef

/-!
# Resolving type references

A resolver spells type references in the target language. The table of overrides is looked up
by the printed reference at every level, a required reference falls back to the entry of its
nullable form, and a name without an entry is spelled as it is, escaped if it is reserved. With
a schema at hand, custom scalars take the target's fallback, and the enumerations whose names
are spelled can be listed.
-/
namespace OperationClasses

/-- Spells type references. -/
structure Resolver where
  target : Target
  overrides : List (String × String)
  reservedWords : List String
  schema? : Option Schema

namespace Resolver

/-- A name of the schema or a document as an identifier. -/
def escape (r : Resolver) (name : String) : String :=
  r.target.identifier (escapeReserved r.target.escapeFormat r.reservedWords name)

/-- Why a name cannot be escaped. -/
def escapeFault? (r : Resolver) (name : String) : Option FormatFault :=
  OperationClasses.escapeFault? r.target.escapeFormat r.reservedWords name

/-- The fault of the first of several names that cannot be escaped. -/
def firstFault? (r : Resolver) (names : List String) : Option FormatFault :=
  names.findSome? r.escapeFault?

/-- The override of a reference. References around a given leaf have none. -/
def override? (r : Resolver) (leaf? : Option String) (t : TypeRef) : Option String :=
  match leaf? with
  | some _ => none
  | none => t.key?.bind fun key => r.overrides.lookup key

/-- A name stands for an enumeration of the schema and has no override. -/
def enumNamed? (r : Resolver) (name : String) : Option String :=
  if (r.overrides.lookup name).isSome then none
  else if (r.schema?.bind (·.enum? name)).isSome then some name
  else none

/-- A named type without regard to whether it is required. -/
def spellName (r : Resolver) (leaf? : Option String) (name : String) : String :=
  match leaf? with
  | some leaf => leaf
  | none =>
    match r.overrides.lookup name with
    | some spelled => spelled
    | none =>
      if (r.enumNamed? name).isSome then r.escape name
      else match r.target.scalarFallback? with
        | some fallback =>
          if (r.schema?.bind (·.scalar? name)).isSome then fallback else r.escape name
        | none => r.escape name

/-- Why a reference cannot be spelled. -/
inductive Fault where
  | notAReference (shown : String)
  | requiredTwice
  | broken (fault : TypeRef.Fault)
  deriving Repr, DecidableEq

def Fault.detail : Fault → String
  | .notAReference shown => "cannot resolve type reference " ++ shown
  | .requiredTwice => "unexpected type node NonNullTypeNode"
  | .broken fault => fault.message

/-- A given leaf in the place of a table, which cannot be looked up. -/
def leafFor (leaf? : Option String) : Except Fault String :=
  match leaf? with
  | some leaf => .ok leaf
  | none => .error (.broken .unhashable)

/-- An override, or else the spelling of the bare reference, as a type that may be missing. -/
def orOptional (r : Resolver) (override? : Option String) (bare : Except Fault String) :
    Except Fault String :=
  match override? with
  | some spelled => .ok (r.target.optional spelled)
  | none => bare.map r.target.optional

mutual

/-- A reference with its own mark. -/
def spell (r : Resolver) (leaf? : Option String) : TypeRef → Except Fault String
  | .named none => .error (.notAReference (TypeRef.named none).shown)
  | .named (some name) =>
    r.orOptional (r.override? leaf? (.named (some name))) (.ok (r.spellName leaf? name))
  | .list e =>
    r.orOptional (r.override? leaf? (.list e)) ((spell r leaf? e).map r.target.listType)
  | .nonNull t =>
    match r.override? leaf? (.nonNull t) with
    | some spelled => .ok spelled
    | none => spellBare r leaf? t
  | .tableNamed _ => (leafFor leaf?).map r.target.optional
  | .misnamed inside => .error (.notAReference (TypeRef.misnamed inside).shown)
  | .other stray => .error (.notAReference stray.shown)

/-- What a mark stands behind. -/
def spellBare (r : Resolver) (leaf? : Option String) : TypeRef → Except Fault String
  | .named none => .error (.notAReference (TypeRef.named none).shown)
  | .named (some name) => .ok (r.spellName leaf? name)
  | .list e => (spell r leaf? e).map r.target.listType
  | .nonNull _ => .error .requiredTwice
  | .tableNamed _ => leafFor leaf?
  | .misnamed inside => .error (.notAReference (TypeRef.misnamed inside).shown)
  | .other stray => .error (.notAReference stray.shown)

end

/-- Spells a reference. With a leaf, the name at its heart is replaced by the leaf. -/
def resolve (r : Resolver) (leaf? : Option String) (provenance : String) (t : TypeRef) :
    Except Unresolved String :=
  if t.signature?.isNone then
    .error ⟨provenance, (Fault.notAReference t.shown).detail⟩
  else
    match r.spell leaf? t with
    | .ok spelled => .ok spelled
    | .error f => .error ⟨provenance, f.detail⟩

/-- Spells the element of a reference, its list wrappers dropped. -/
def resolveElement (r : Resolver) (leaf? : Option String) (provenance : String) (t : TypeRef) :
    Except Unresolved String :=
  if t.signature?.isNone then
    .error ⟨provenance, (Fault.notAReference t.shown).detail⟩
  else r.resolve leaf? provenance t.element

/-- Resolves a reference, or only its element. -/
def resolvePart (r : Resolver) (elementOnly : Bool) (leaf? : Option String) (provenance : String)
    (t : TypeRef) : Except Unresolved String :=
  if elementOnly then r.resolveElement leaf? provenance t else r.resolve leaf? provenance t

/-- What is spelled of a reference: all of it, or only its element. -/
def part (elementOnly : Bool) (t : TypeRef) : TypeRef := if elementOnly then t.element else t

/-- Why resolving a reference breaks off: its text is needed, then it is shown if it has none, or
else it is spelled. -/
def brokenBy? (r : Resolver) (elementOnly : Bool) (leaf? : Option String) (t : TypeRef) :
    Option TypeRef.Fault :=
  match t.signatureFault? with
  | some fault => some fault
  | none =>
    if t.signature?.isNone then t.shownFault?
    else match r.spell leaf? (part elementOnly t) with
      | .error (.broken fault) => some fault
      | _ => none

/-- What becomes of a reference that is to be resolved. -/
inductive Outcome where
  | spelled (type : String)
  | unresolved (u : Unresolved)
  | broken (fault : TypeRef.Fault)
  deriving Repr, DecidableEq

/-- Resolves a reference, or only its element, whatever it holds. -/
def outcome (r : Resolver) (elementOnly : Bool) (leaf? : Option String) (provenance : String)
    (t : TypeRef) : Outcome :=
  match r.brokenBy? elementOnly leaf? t with
  | some fault => .broken fault
  | none =>
    match r.resolvePart elementOnly leaf? provenance t with
    | .ok spelled => .spelled spelled
    | .error u => .unresolved u

mutual

/-- The enumeration whose name a reference spells, unless an override comes first. -/
def enumIn? (r : Resolver) : TypeRef → Option String
  | .named none => none
  | .named (some name) =>
    if (r.override? none (.named (some name))).isSome then none else r.enumNamed? name
  | .list e => if (r.override? none (.list e)).isSome then none else enumIn? r e
  | .nonNull t => if (r.override? none (.nonNull t)).isSome then none else enumBehind? r t
  | .misnamed _ => none
  | .tableNamed _ => none
  | .other _ => none

def enumBehind? (r : Resolver) : TypeRef → Option String
  | .named none => none
  | .named (some name) => r.enumNamed? name
  | .list e => enumIn? r e
  | .nonNull _ => none
  | .misnamed _ => none
  | .tableNamed _ => none
  | .other _ => none

end

/-- The enumeration whose name is spelled when the reference is resolved without a leaf. -/
def enumMet? (r : Resolver) (t : TypeRef) : Option String :=
  if t.signature?.isNone then none else r.enumIn? t

/-- Whether a name without an override is spelled as a name, and not by the fallback of scalars. -/
def keepsName (r : Resolver) (name : String) : Bool :=
  (r.enumNamed? name).isSome || r.target.scalarFallback?.isNone ||
    (r.schema?.bind (·.scalar? name)).isNone

/-- The name itself, if it is escaped when it is spelled. -/
def escapedName? (r : Resolver) (name : String) : Option String :=
  if (r.overrides.lookup name).isSome then none
  else if r.keepsName name then some name else none

mutual

/-- The name that is escaped when a reference is spelled, unless an override comes first. -/
def escapedIn? (r : Resolver) : TypeRef → Option String
  | .named none => none
  | .named (some name) =>
    if (r.override? none (.named (some name))).isSome then none else r.escapedName? name
  | .list e => if (r.override? none (.list e)).isSome then none else escapedIn? r e
  | .nonNull t => if (r.override? none (.nonNull t)).isSome then none else escapedBehind? r t
  | .misnamed _ => none
  | .tableNamed _ => none
  | .other _ => none

def escapedBehind? (r : Resolver) : TypeRef → Option String
  | .named none => none
  | .named (some name) => r.escapedName? name
  | .list e => escapedIn? r e
  | .nonNull _ => none
  | .misnamed _ => none
  | .tableNamed _ => none
  | .other _ => none

end

/-- The name that is escaped when the reference is resolved without a leaf. -/
def nameEscaped? (r : Resolver) (t : TypeRef) : Option String :=
  if t.signature?.isNone then none else r.escapedIn? t

end Resolver

/-- Names in the order in which they were first met. -/
def meet (met : List String) (name? : Option String) : List String :=
  match name? with
  | none => met
  | some name => if met.contains name then met else met ++ [name]

end OperationClasses
