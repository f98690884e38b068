import Mathlib.Data.List.TakeWhile
import OperationClasses.Proofs.Response.ClassNames
import OperationClasses.Proofs.Syntax.Lookahead
import OperationClasses.Target.Registry

/-!
# The name inside a spelled type

Both built-in targets write lists and missing values with brackets around an element, and no
class has a bracket in its name. So the name at the heart of a type is what stands inside all of
its brackets, whatever words are reserved.
-/
namespace OperationClasses.Response

open Syntax

def isOpening (c : Char) : Bool := c = '[' || c = '<'

def isClosing (c : Char) : Bool := c = ']' || c = '>'

def isBracket (c : Char) : Bool := isOpening c || isClosing c

/-- The characters behind the last opening bracket and before the closing bracket that
follows. -/
def innermost (s : List Char) : List Char :=
  (s.reverse.takeWhile (!isOpening ·)).reverse.takeWhile (!isClosing ·)

/-- The name at the heart of a type that a built-in target spells. -/
def heart (spelled : String) : String := String.ofList (innermost spelled.toList)

theorem isBracket_eq_false_of_isNamePart {c : Char} (h : isNamePart c) : isBracket c = false := by
  have hmarks : ['[', '<', ']', '>'].all (!isNamePart ·) := by decide
  by_contra hc
  have hmem : c ∈ ['[', '<', ']', '>'] := by
    simp only [isBracket, isOpening, isClosing, Bool.not_eq_false, Bool.or_eq_true,
      decide_eq_true_eq] at hc
    simpa [or_assoc] using hc
  simpa [h] using List.all_eq_true.mp hmarks c hmem

/-- The targets that come with the program. -/
def IsBuiltIn (t : Target) : Prop := t = .csharp ∨ t = .python

theorem mem_escapeReserved_around {before after name : String} {reserved : List String} {c : Char}
    (h : c ∈ (escapeReserved (.around before after) reserved name).toList) :
    c ∈ name.toList ∨ c ∈ before.toList ∨ c ∈ after.toList := by
  rw [escapeReserved, EscapeFormat.spell_around] at h
  split at h
  · simp only [String.toList_append, List.mem_append] at h
    tauto
  · exact .inl h

theorem mem_pythonIdentifier {name : String} {c : Char}
    (h : c ∈ (Target.pythonIdentifier name).toList) : c ∈ name.toList ∨ c = '_' := by
  unfold Target.pythonIdentifier at h
  split at h
  · next rest hrest =>
    rw [String.toList_ofList, List.mem_append, List.mem_singleton] at h
    refine h.imp_left fun hc => ?_
    rw [hrest]
    exact List.mem_cons_of_mem _ ((List.dropWhile_suffix _).subset hc)
  · exact .inl h

/-- Escaping a name adds an at sign or an underscore at most. -/
theorem mem_escape {r : Resolver} (hr : IsBuiltIn r.target) {name : String} {c : Char}
    (h : c ∈ (r.escape name).toList) : c ∈ name.toList ∨ c = '@' ∨ c = '_' := by
  rcases hr with hr | hr <;> rw [Resolver.escape, hr] at h
  · have := mem_escapeReserved_around h
    simp at this
    tauto
  · rcases mem_pythonIdentifier h with h | h
    · have := mem_escapeReserved_around h
      simp at this
      tauto
    · exact .inr (.inr h)

/-- A class is named after its type if the type is known, else after its field. -/
theorem plainName_cases (key : String) (type : Except Unresolved TypeRef) :
    plainName key type = Naming.pascalCase key ∨
      ∃ t, type = .ok t ∧ t.name?.getD "" = plainName key type := by
  cases type with
  | error u => exact .inl (by rw [plainName, if_pos rfl])
  | ok t =>
    by_cases h : t.name?.getD "" = ""
    · exact .inl (by rw [plainName, if_pos h])
    · exact .inr ⟨t, rfl, by rw [plainName, if_neg h]⟩

theorem plain_plainName {f : TypedField} (hf : Regular f) :
    Plain (plainName f.key f.type).toList := by
  rcases plainName_cases f.key f.type with hname | ⟨t, htype, hname⟩
  · rw [hname]
    exact plain_pascalCase hf.key
  · obtain ⟨name, hsome, hisName⟩ := (hf.type t htype).name?
    rw [← hname, hsome]
    exact fun c hc => isNamePart_of_mem hisName hc

/-- A nested class is named after a type or a field, which have names, and perhaps escaped,
prefixed or numbered. -/
theorem forall_mem_freeName {r : Resolver} {P : Char → Prop} (hpart : ∀ c, isNamePart c → P c)
    (hescape : ∀ name, Plain name.toList → ∀ c ∈ (r.escape name).toList, P c) {f : TypedField}
    (hf : Regular f) (used : List String) : ∀ c ∈ (freeName r used f.key f.type).toList, P c := by
  have hkey : Plain (Naming.pascalCase f.key).toList := plain_pascalCase hf.key
  have hbase : ∀ c ∈ (baseName r f.key f.type).toList, P c := hescape _ (plain_plainName hf)
  intro c hc
  rcases freeName_cases r used f.key f.type with hname | hname | ⟨n, hname⟩ <;> rw [hname] at hc
  · exact hbase c hc
  · rcases List.mem_append.mp (String.toList_append ▸ hc) with hc | hc
    · exact hpart c (hkey c hc)
    · exact hbase c hc
  · rcases List.mem_append.mp (String.toList_append ▸ hc) with hc | hc
    · exact hbase c hc
    · rw [Nat.toString_eq_repr, Nat.toList_repr] at hc
      have hdigit := Nat.isDigit_of_mem_toDigits (by decide) (by decide) hc
      exact hpart c (isNamePart_of_isDigit hdigit)

/-- No nested class has a bracket in its name. -/
theorem isBracket_freeName {r : Resolver} (hr : IsBuiltIn r.target) {f : TypedField}
    (hf : Regular f) (used : List String) :
    ∀ c ∈ (freeName r used f.key f.type).toList, isBracket c = false := by
  refine forall_mem_freeName (fun _ => isBracket_eq_false_of_isNamePart) ?_ hf used
  intro name hname c hc
  rcases mem_escape hr hc with hc | rfl | rfl
  · exact isBracket_eq_false_of_isNamePart (hname c hc)
  · decide
  · decide

end OperationClasses.Response
