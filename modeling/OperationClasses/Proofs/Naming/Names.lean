import OperationClasses.Naming
import OperationClasses.Schema.Basic
import OperationClasses.Syntax.Lexer
import OperationClasses.TypeRef

/-!
# Names

Names consist of letters, digits and underscores and do not begin with a digit. Cutting a name
into words and changing the case of its letters introduces no other characters. A written type
reference is a name inside lists and marks, with at most one mark around each of them.
-/
namespace OperationClasses

open Syntax Text Naming

/-- A name of the query language. -/
def isName (s : String) : Bool :=
  match s.toList with
  | [] => false
  | c :: rest => isNameStart c && rest.all isNamePart

theorem isNamePart_of_mem {s : String} (h : isName s) {c : Char} (hc : c ∈ s.toList) :
    isNamePart c := by
  unfold isName at h
  split at h
  · simp at h
  · next first rest hs =>
    rw [Bool.and_eq_true, List.all_eq_true] at h
    rw [hs, List.mem_cons] at hc
    rcases hc with rfl | hc
    · simp [isNamePart, h.1]
    · exact h.2 c hc

theorem ne_empty_of_isName {s : String} (h : isName s) : s ≠ "" := by
  rintro rfl
  simp [isName] at h

theorem isNamePart_of_isDigit {c : Char} (h : c.isDigit) : isNamePart c := by
  simp only [Char.isDigit, Bool.and_eq_true, decide_eq_true_eq] at h
  simp only [isNamePart, Syntax.isDigit, Bool.or_eq_true, Bool.and_eq_true, decide_eq_true_eq,
    Char.le_def]
  exact .inr h

theorem toNat_lt_of_isNamePart {c : Char} (h : isNamePart c) : c.toNat < 128 := by
  simp only [isNamePart, isNameStart, Syntax.isDigit, Bool.or_eq_true, Bool.and_eq_true,
    decide_eq_true_eq, Char.le_def, UInt32.le_iff_toNat_le] at h
  rcases h with ((h | h) | rfl) | h
  · exact Nat.lt_of_le_of_lt h.2 (by decide)
  · exact Nat.lt_of_le_of_lt h.2 (by decide)
  · decide
  · exact Nat.lt_of_le_of_lt h.2 (by decide)

theorem isNamePart_case_below :
    ∀ n < 128, isNamePart (Char.ofNat n) →
      isNamePart (Char.ofNat n).toLower ∧ isNamePart (Char.ofNat n).toUpper := by
  decide

theorem isNamePart_case {c : Char} (h : isNamePart c) :
    isNamePart c.toLower ∧ isNamePart c.toUpper := by
  have := isNamePart_case_below c.toNat (toNat_lt_of_isNamePart h)
  rw [Char.ofNat_toNat] at this
  exact this h

/-- All characters are those of names. -/
abbrev Plain (s : List Char) : Prop := ∀ c ∈ s, isNamePart c

theorem plain_lowerFrom {s : List Char} (h : Plain s) (afterCased : Bool) :
    Plain (lowerFrom afterCased s) := by
  induction s generalizing afterCased with
  | nil => exact h
  | cons c rest ih =>
    have hc := h c (by simp)
    have hlt := toNat_lt_of_isNamePart hc
    have hrest : Plain rest := fun d hd => h d (List.mem_cons_of_mem c hd)
    rw [lowerFrom, if_neg (by omega)]
    simp only [lowerChar, hlt, ↓reduceIte]
    intro d hd
    rcases List.mem_cons.mp hd with rfl | hd
    · exact (isNamePart_case hc).1
    · exact ih hrest _ d hd

theorem plain_capitalize {s : List Char} (h : Plain s) : Plain (capitalize s) := by
  cases s with
  | nil => exact h
  | cons c rest =>
    have hc := h c (by simp)
    have hlt := toNat_lt_of_isNamePart hc
    have hrest : Plain rest := fun d hd => h d (List.mem_cons_of_mem c hd)
    simp only [capitalize, titleChar, hlt, ↓reduceIte]
    intro d hd
    rcases List.mem_cons.mp hd with rfl | hd
    · exact (isNamePart_case hc).2
    · exact plain_lowerFrom hrest _ d hd

theorem mem_breakWords {inWord : Bool} {s : List Char} {c : Char}
    (h : c ∈ breakWords inWord s) : c ∈ s ∨ c = '_' := by
  fun_induction breakWords inWord s <;> grind

theorem mem_breakCapitals {s : List Char} {c : Char} (h : c ∈ breakCapitals s) :
    c ∈ s ∨ c = '_' := by
  fun_induction breakCapitals s <;> grind

theorem mem_of_mem_pieces {separator : Char} {s piece : List Char} {c : Char}
    (hpiece : piece ∈ pieces separator s) (hc : c ∈ piece) : c ∈ s := by
  fun_induction pieces separator s generalizing piece <;> grind

theorem plain_breakCapitals {s : List Char} (h : Plain s) :
    Plain (breakCapitals (breakWords false s)) := by
  intro c hc
  rcases mem_breakCapitals hc with hc | rfl
  · rcases mem_breakWords hc with hc | rfl
    · exact h c hc
    · decide
  · decide

theorem plain_snakeChars {s : List Char} (h : Plain s) : Plain (snakeChars s) :=
  plain_lowerFrom (plain_breakCapitals h) false

theorem plain_pascalChars {s : List Char} (h : Plain s) : Plain (pascalChars s) := by
  intro c hc
  obtain ⟨piece, hpiece, hc⟩ := List.mem_flatMap.mp hc
  refine plain_capitalize (fun d hd => ?_) c hc
  exact plain_snakeChars h d (mem_of_mem_pieces hpiece hd)

theorem plain_pascalCase {s : String} (h : isName s) : Plain (pascalCase s).toList := by
  rw [pascalCase, String.toList_ofList]
  exact plain_pascalChars fun c hc => isNamePart_of_mem h hc

/-- A reference as a text can spell it. -/
inductive TypeRef.Written : TypeRef → Prop
  | named {name : String} : isName name → Written (.named (some name))
  | list {e : TypeRef} : Written e → Written (.list e)
  | nonNullNamed {name : String} : isName name → Written (.nonNull (.named (some name)))
  | nonNullList {e : TypeRef} : Written e → Written (.nonNull (.list e))

/-- Every field of the schema has a written type. -/
def Schema.Written (s : Schema) : Prop := ∀ d ∈ s.types, ∀ f ∈ d.fields, f.type.Written

theorem TypeRef.Written.signature? {t : TypeRef} (h : t.Written) :
    ∃ text, t.signature? = some text ∧ text ≠ "" := by
  induction h with
  | named hname => exact ⟨_, rfl, ne_empty_of_isName hname⟩
  | list _ ih =>
    obtain ⟨text, htext, hne⟩ := ih
    simp [TypeRef.signature?, htext, TypeRef.nonEmpty?, hne]
  | nonNullNamed hname =>
    simp [TypeRef.signature?, TypeRef.nonEmpty?, ne_empty_of_isName hname]
  | nonNullList _ ih =>
    obtain ⟨text, htext, hne⟩ := ih
    simp [TypeRef.signature?, htext, TypeRef.nonEmpty?, hne]

theorem TypeRef.Written.name? {t : TypeRef} (h : t.Written) :
    ∃ name, t.name? = some name ∧ isName name := by
  induction h with
  | named hname => exact ⟨_, rfl, hname⟩
  | list _ ih => exact ih
  | nonNullNamed hname => exact ⟨_, rfl, hname⟩
  | nonNullList _ ih => exact ih

theorem TypeRef.Written.key?_eq {t : TypeRef} (h : t.Written) : t.key? = t.signature? := by
  cases h <;> rfl

theorem TypeRef.Written.heartFault?_eq_none {t : TypeRef} (h : t.Written) :
    t.heartFault? = none := by
  induction h with
  | named _ | nonNullNamed _ => rfl
  | list _ ih | nonNullList _ ih => exact ih

theorem TypeRef.Written.shownFault?_eq_none {t : TypeRef} (h : t.Written) :
    t.shownFault? = none := by
  cases h <;> rfl

/-- What a name is looked up as bears that name. -/
theorem Schema.name_of_find? (s : Schema) {kind : TypeKind} {name : String} {d : TypeDefinition}
    (h : s.find? kind name = some d) : d.name = name := by
  have hfound := List.find?_some h
  simp only [Bool.and_eq_true, decide_eq_true_eq] at hfound
  exact hfound.1

theorem Schema.Written.of_fields? {s : Schema} (h : s.Written) {parent : String}
    {fs : List FieldDefinition} (hfs : s.fields? parent = some fs) {f : FieldDefinition}
    (hf : f ∈ fs) : f.type.Written := by
  obtain ⟨d, hd, rfl⟩ := Option.map_eq_some_iff.mp hfs
  rcases Option.or_eq_some_iff.mp hd with hd | ⟨_, hd⟩
  · exact h d (List.mem_of_find?_eq_some hd) f hf
  · exact h d (List.mem_of_find?_eq_some hd) f hf

end OperationClasses
