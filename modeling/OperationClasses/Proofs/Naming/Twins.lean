import OperationClasses.Classes.Model
import OperationClasses.Proofs.Response.Heart

/-!
# Names that are spelled alike

With the words that are reserved unless a configuration says otherwise, C# spells different names
differently, since no name begins with an at sign. Python moves underscores to the end of a name
and puts one behind a keyword, so it spells two names alike when they come to the same, or when one
of them is what becomes of the other.
-/
namespace OperationClasses

open Response

/-- A name without its leading underscores. -/
def stem (name : String) : String := String.ofList (name.toList.dropWhile (· = '_'))

/-- Python spells a name with an underscore at the end if it is a keyword or begins with an
underscore. -/
def IsMoved (name : String) : Prop :=
  name ∈ PythonModule.keywords ∨ name.toList.head? = some '_'

instance (name : String) : Decidable (IsMoved name) := inferInstanceAs (Decidable (_ ∨ _))

/-- Two names that Python spells alike: both of them are moved to the same place, or one of them to
the place of the other. -/
def Twins (a b : String) : Prop :=
  a ≠ b ∧ (IsMoved a ∧ IsMoved b ∧ stem a = stem b ∨
    IsMoved a ∧ ¬ IsMoved b ∧ stem a ++ "_" = b ∨ ¬ IsMoved a ∧ IsMoved b ∧ a = stem b ++ "_")

instance (a b : String) : Decidable (Twins a b) := inferInstanceAs (Decidable (_ ∧ _))

/-- A resolver for a built-in target with the reserved words that come with it. -/
structure Resolver.IsDefault (r : Resolver) : Prop where
  builtIn : IsBuiltIn r.target
  reserved : r.reservedWords = r.target.reservedWords

variable {r : Resolver}

theorem escape_csharp (hr : r.IsDefault) (htarget : r.target = .csharp) (name : String) :
    r.escape name = if name ∈ Target.csharp.reservedWords then "@" ++ name else name := by
  have hformat : Target.csharp.escapeFormat = .around "@" "" := rfl
  have hidentifier : Target.csharp.identifier = fun name => name := rfl
  simp [Resolver.escape, escapeReserved, hr.reserved, htarget, hformat, hidentifier,
    EscapeFormat.spell_around]

theorem pythonIdentifier_eq (name : String) :
    Target.pythonIdentifier name =
      if name.toList.head? = some '_' then stem name ++ "_" else name := by
  unfold Target.pythonIdentifier stem
  split
  · next rest hname => simp [hname, String.ofList_append]
  · next hother =>
    rw [if_neg]
    intro hhead
    obtain ⟨rest, hrest⟩ := List.head?_eq_some_iff.mp hhead
    exact hother rest hrest

theorem escape_python (hr : r.IsDefault) (htarget : r.target = .python) (name : String) :
    r.escape name = if IsMoved name then stem name ++ "_" else name := by
  have hformat : Target.python.escapeFormat = .around "" "_" := rfl
  have hidentifier : Target.python.identifier = Target.pythonIdentifier := rfl
  have hwords : Target.python.reservedWords = PythonModule.keywords := rfl
  have hkeywords : ∀ word ∈ PythonModule.keywords,
      (word ++ "_").toList.head? ≠ some '_' ∧ stem word = word := by
    decide
  rw [Resolver.escape, hr.reserved, htarget, hformat, hidentifier, hwords, escapeReserved,
    EscapeFormat.spell_around, String.empty_append, pythonIdentifier_eq]
  by_cases hname : name ∈ PythonModule.keywords
  · obtain ⟨hhead, hstem⟩ := hkeywords name hname
    rw [List.contains_eq_mem, decide_eq_true hname, if_pos rfl, if_neg hhead,
      if_pos (show IsMoved name from .inl hname), hstem]
  · simp [IsMoved, hname]

/-- C# spells different names differently. -/
theorem escape_csharp_inj (hr : r.IsDefault) (htarget : r.target = .csharp) {a b : String}
    (ha : isName a) (hb : isName b) (h : r.escape a = r.escape b) : a = b := by
  have hsign : ∀ name word : String, isName word → "@" ++ name ≠ word := by
    rintro name word hword rfl
    have hpart := isNamePart_of_mem hword (c := '@') (by simp)
    exact absurd hpart (by decide)
  rw [escape_csharp hr htarget, escape_csharp hr htarget] at h
  split at h <;> split at h
  · simpa using h
  · exact absurd h (hsign a b hb)
  · exact absurd h.symm (hsign b a ha)
  · exact h

/-- Python spells two different names alike exactly if they are twins. -/
theorem escape_python_eq_iff (hr : r.IsDefault) (htarget : r.target = .python) {a b : String} :
    r.escape a = r.escape b ↔ a = b ∨ Twins a b := by
  have hstems : stem a ++ "_" = stem b ++ "_" ↔ stem a = stem b := by simp
  rw [escape_python hr htarget, escape_python hr htarget]
  by_cases heq : a = b
  · simp [heq]
  · by_cases ha : IsMoved a <;> by_cases hb : IsMoved b <;> simp [Twins, heq, ha, hb, hstems]

theorem escape_empty (hr : r.IsDefault) : r.escape "" = "" := by
  rcases hr.builtIn with htarget | htarget
  · rw [escape_csharp hr htarget, if_neg (by decide)]
  · rw [escape_python hr htarget, if_neg (by decide)]

/-- A property was made for a name. -/
def PropertyFor (r : Resolver) (name : String) (p : Property) : Prop :=
  ∃ type required comment?, p = .of (r.escape name) type name required comment?

theorem PropertyFor.graphqlName_eq (hr : r.IsDefault) {name : String} {p : Property}
    (h : PropertyFor r name p) : p.graphqlName = name := by
  obtain ⟨type, required, comment?, rfl⟩ := h
  by_cases hname : name = ""
  · simp [Property.of, hname, escape_empty hr]
  · simp [Property.of, hname]

theorem PropertyFor.name_eq {name : String} {p : Property} (h : PropertyFor r name p) :
    p.name = r.escape name := by
  obtain ⟨type, required, comment?, rfl⟩ := h
  rfl

theorem map_graphqlName_of_propertiesFor (hr : r.IsDefault) {names : List String}
    {ps : List Property} (h : List.Forall₂ (PropertyFor r) names ps) :
    ps.map (·.graphqlName) = names := by
  induction h with
  | nil => rfl
  | cons hp _ ih => rw [List.map_cons, hp.graphqlName_eq hr, ih]

theorem map_name_of_propertiesFor {names : List String} {ps : List Property}
    (h : List.Forall₂ (PropertyFor r) names ps) : ps.map (·.name) = names.map r.escape := by
  induction h with
  | nil => rfl
  | cons hp _ ih => rw [List.map_cons, List.map_cons, hp.name_eq, ih]

/-- The properties of a class keep names apart: always in C#, in Python unless some of them are
twins. -/
structure KeepsApart (t : Target) (c : ClassModel) : Prop where
  csharp : t = .csharp → (∀ p ∈ c.properties, isName p.graphqlName) →
    (c.properties.map (·.name)).Nodup
  python : t = .python → ((c.properties.map (·.name)).Nodup ↔
    ∀ p ∈ c.properties, ∀ q ∈ c.properties, ¬ Twins p.graphqlName q.graphqlName)

/-- Properties that stand for different names keep them apart. -/
theorem keepsApart_of_propertiesFor (hr : r.IsDefault) {c : ClassModel} {names : List String}
    (hfor : List.Forall₂ (PropertyFor r) names c.properties) (hnodup : names.Nodup) :
    KeepsApart r.target c := by
  have hgraphql := map_graphqlName_of_propertiesFor hr hfor
  have hspelled := map_name_of_propertiesFor hfor
  rw [← hgraphql] at hnodup hspelled
  have hiff : (c.properties.map (·.name)).Nodup ↔ ∀ p ∈ c.properties, ∀ q ∈ c.properties,
      r.escape p.graphqlName = r.escape q.graphqlName → p.graphqlName = q.graphqlName := by
    rw [hspelled, List.nodup_map_iff_inj_on hnodup]
    simp
  refine ⟨fun htarget hnames => ?_, fun htarget => ?_⟩
  · exact hiff.mpr fun p hp q hq => escape_csharp_inj hr htarget (hnames p hp) (hnames q hq)
  · rw [hiff]
    refine forall₂_congr fun p hp => forall₂_congr fun q hq => ?_
    rw [escape_python_eq_iff hr htarget]
    constructor
    · exact fun h htwins => htwins.1 (h (.inr htwins))
    · exact fun h heq => heq.resolve_right h

end OperationClasses
