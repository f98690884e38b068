import Mathlib.Data.List.Nodup
import Mathlib.Data.List.Perm.Subperm
import OperationClasses.Classes.Response
import OperationClasses.Proofs.Naming.Names
import OperationClasses.Proofs.Result

/-!
# Names of nested classes

The classes nested in a class have names of their own: no two of them share one, and none is
taken by the class around them or by a property beside them. The name of a class can be read off
the type that is spelled around it.
-/
namespace OperationClasses.Response

open Syntax

theorem numbered_injective (base : String) :
    Function.Injective fun i : ℕ => base ++ toString (i + 2) := by
  intro i j h
  have hdigits : Nat.toDigits 10 (i + 2) = Nat.toDigits 10 (j + 2) := by
    simpa [Nat.toString_eq_repr, Nat.toList_repr] using congrArg String.toList h
  have hnumbers := congrArg (fun ds => Nat.ofDigitChars 10 ds 0) hdigits
  simpa using hnumbers

/-- A numbered name bears the first number from two on that makes it free; there are more
candidates than names in use. -/
theorem exists_numbered (used : List String) (base : String) :
    ∃ i : ℕ, numbered used base = base ++ toString (i + 2) ∧ base ++ toString (i + 2) ∉ used ∧
      ∀ j < i, base ++ toString (j + 2) ∈ used := by
  have hnumbered : numbered used base = (((List.range (used.length + 1)).find? fun i =>
      !used.contains (base ++ toString (i + 2))).map fun i => base ++ toString (i + 2)).getD base := by
    rw [numbered, List.find?_map]
    rfl
  cases hfind : (List.range (used.length + 1)).find? fun i =>
      !used.contains (base ++ toString (i + 2)) with
  | some i =>
    obtain ⟨hfree, -, htaken⟩ := List.find?_range_eq_some.mp hfind
    refine ⟨i, by rw [hnumbered, hfind]; rfl, by simpa using hfree, fun j hj => ?_⟩
    simpa using htaken j hj
  | none =>
    have hnodup : ((List.range (used.length + 1)).map fun i => base ++ toString (i + 2)).Nodup :=
      List.nodup_range.map (numbered_injective base)
    have hsubset : ((List.range (used.length + 1)).map fun i => base ++ toString (i + 2)) ⊆ used := by
      intro name hname
      obtain ⟨i, hi, rfl⟩ := List.mem_map.mp hname
      simpa using List.find?_eq_none.mp hfind i hi
    have hlength := (List.subperm_of_subset hnodup hsubset).length_le
    simp only [List.length_map, List.length_range] at hlength
    omega

theorem numbered_not_mem (used : List String) (base : String) : numbered used base ∉ used := by
  obtain ⟨i, hnumbered, hfree, -⟩ := exists_numbered used base
  rwa [hnumbered]

theorem freeName_not_mem (r : Resolver) (used : List String) (key : String)
    (type : Except Unresolved TypeRef) : freeName r used key type ∉ used := by
  unfold freeName
  by_cases hbase : baseName r key type ∈ used
  · by_cases hprefixed : Naming.pascalCase key ++ baseName r key type ∈ used
    · simpa [hbase, hprefixed] using numbered_not_mem used (baseName r key type)
    · simp [hbase, hprefixed]
  · simp [hbase]

/-- A free name is a base name, with the field's words before it or a number behind it. -/
theorem freeName_cases (r : Resolver) (used : List String) (key : String)
    (type : Except Unresolved TypeRef) :
    freeName r used key type = baseName r key type ∨
      freeName r used key type = Naming.pascalCase key ++ baseName r key type ∨
      ∃ n : ℕ, freeName r used key type = baseName r key type ++ toString n := by
  unfold freeName
  by_cases hbase : baseName r key type ∈ used
  · by_cases hprefixed : Naming.pascalCase key ++ baseName r key type ∈ used
    · simp only [List.contains_eq_mem, hbase, hprefixed, decide_true, Bool.not_true,
        Bool.false_eq_true, ↓reduceIte]
      obtain ⟨i, hnumbered, -, -⟩ := exists_numbered used (baseName r key type)
      exact .inr (.inr ⟨i + 2, hnumbered⟩)
    · simp [hbase, hprefixed]
  · simp [hbase]

/-- A type that is known is a written one, and only fields of the language own selections. -/
structure Founded (f : TypedField) : Prop where
  type : ∀ t, f.type = .ok t → t.Written
  node : f.children?.isSome → f.node.kind = .field

/-- A founded field whose response key is a name. -/
structure Regular (f : TypedField) : Prop extends Founded f where
  key : isName f.key

/-- The name at the heart of a spelled type can be read: lists and marks around it do not hide
it, and the names that nested classes bear stand for themselves. -/
structure Legible (r : Resolver) (heart : String → String) : Prop where
  list : ∀ spelled, heart (r.target.listType spelled) = heart spelled
  optional : ∀ spelled, heart (r.target.optional spelled) = heart spelled
  className : ∀ used f, Regular f → heart (freeName r used f.key f.type) = freeName r used f.key f.type

theorem heart_orOptional {r : Resolver} {heart : String → String} (hr : Legible r heart)
    {bare : Except Resolver.Fault String} {spelled : String}
    (h : r.orOptional none bare = .ok spelled) :
    ∃ inner, bare = .ok inner ∧ heart spelled = heart inner := by
  cases bare with
  | error fault => cases h
  | ok inner =>
    cases h
    exact ⟨inner, rfl, hr.optional inner⟩

/-- A written reference can be spelled. -/
theorem exists_spell {t : TypeRef} (h : t.Written) (r : Resolver) (leaf? : Option String) :
    ∃ spelled, r.spell leaf? t = .ok spelled := by
  induction h with
  | named =>
    rw [Resolver.spell]
    unfold Resolver.orOptional
    split <;> exact ⟨_, rfl⟩
  | list _ ih =>
    obtain ⟨inner, hinner⟩ := ih
    rw [Resolver.spell, hinner]
    unfold Resolver.orOptional
    split <;> exact ⟨_, rfl⟩
  | nonNullNamed =>
    rw [Resolver.spell]
    split <;> exact ⟨_, rfl⟩
  | nonNullList _ ih =>
    obtain ⟨inner, hinner⟩ := ih
    rw [Resolver.spell]
    split
    · exact ⟨_, rfl⟩
    · rw [Resolver.spellBare, hinner]
      exact ⟨_, rfl⟩

theorem exists_resolve {t : TypeRef} (h : t.Written) (r : Resolver) (leaf? : Option String)
    (provenance : String) :
    ∃ spelled, r.resolve leaf? provenance t = .ok spelled ∧ r.spell leaf? t = .ok spelled := by
  obtain ⟨text, htext, _⟩ := h.signature?
  obtain ⟨spelled, hspelled⟩ := exists_spell h r leaf?
  exact ⟨spelled, by simp [Resolver.resolve, htext, hspelled], hspelled⟩

/-- The type of a leaf's property is the spelled reference. -/
theorem spell_leafProperty {t : TypeRef} (h : t.Written) (r : Resolver) (key : String) :
    r.spell none t = .ok (leafProperty r key (.ok t)).type := by
  obtain ⟨spelled, hresolve, hspell⟩ := exists_resolve h r none "selection"
  rw [leafProperty, hresolve, hspell]
  rfl

/-- A leaf stays at the heart of the reference that is spelled around it. -/
theorem heart_spell {t : TypeRef} (h : t.Written) {r : Resolver} {heart : String → String}
    (hr : Legible r heart) {leaf spelled : String} (hs : r.spell (some leaf) t = .ok spelled) :
    heart spelled = heart leaf := by
  induction h generalizing spelled with
  | named =>
    obtain ⟨inner, hinner, heq⟩ := heart_orOptional hr hs
    cases hinner
    exact heq
  | list _ ih =>
    obtain ⟨inner, hinner, heq⟩ := heart_orOptional hr hs
    obtain ⟨element, helement, rfl⟩ := map_eq_ok.mp hinner
    rw [heq, hr.list, ih helement]
  | nonNullNamed =>
    cases hs
    rfl
  | nonNullList _ ih =>
    obtain ⟨element, helement, rfl⟩ := map_eq_ok.mp hs
    rw [hr.list, ih helement]

/-- The type of an object property names the class that the property was given. -/
theorem heart_objectProperty {r : Resolver} {heart : String → String} (hr : Legible r heart)
    {type : Except Unresolved TypeRef} (htype : ∀ t, type = .ok t → t.Written) (key name : String) :
    heart (objectProperty r key type name).type = heart name := by
  cases type with
  | error u => exact hr.optional name
  | ok t =>
    obtain ⟨spelled, hresolve, hspell⟩ := exists_resolve (htype t rfl) r (some name) "selection"
    simp only [objectProperty, hresolve, Property.of]
    exact heart_spell (htype t rfl) hr hspell

/-- A field of the language that owns selections has a property and a nested class. -/
theorem members_object {r : Resolver} {used : List String} {node : Node} {key : String}
    {type : Except Unresolved TypeRef} {children rest : List TypedField}
    (h : Founded (.object node key type children)) :
    members r used (.object node key type children :: rest) =
      (objectProperty r key type (freeName r used key type) ::
          (members r (freeName r used key type :: used) rest).1,
        classNamed r (freeName r used key type) children ::
          (members r (freeName r used key type :: used) rest).2) := by
  have hnode : node.kind = .field := h.node rfl
  rw [members, hnode]
  rfl

theorem names_members (r : Resolver) (used : List String) {fields : List TypedField}
    (h : ∀ f ∈ fields, Founded f) :
    ((members r used fields).2.map (·.name)).Nodup ∧
      ∀ c ∈ (members r used fields).2, c.name ∉ used := by
  induction fields generalizing used with
  | nil => simp [members]
  | cons f rest ih =>
    have hf := h f (by simp)
    have hrest : ∀ g ∈ rest, Founded g := fun g hg => h g (List.mem_cons_of_mem f hg)
    cases f with
    | leaf => simpa only [members] using ih used hrest
    | object node key type children =>
      obtain ⟨hnodup, hfree⟩ := ih (freeName r used key type :: used) hrest
      have hname := freeName_not_mem r used key type
      rw [members_object hf]
      simp only [List.map_cons, List.nodup_cons, classNamed, classOf, ClassModel.name_mk,
        List.forall_mem_cons]
      refine ⟨⟨fun hmem => ?_, hnodup⟩, hname, fun c hc hused => hfree c hc (by simp [hused])⟩
      obtain ⟨c, hc, hceq⟩ := List.mem_map.mp hmem
      exact hfree c hc (by simp [hceq])

end OperationClasses.Response
