import OperationClasses.Proofs.Naming.Arrivals
import OperationClasses.Proofs.Response.ClassNames

/-!
# Wrappers of a reference

A written reference is an element, a name with or without a mark, inside lists that are marked or
not. Spelling it spells the element and wraps it list by list, from the innermost outwards, as long
as no list is found in the table of overrides.

A marked reference that is not in the table is spelled like the bare one without its `optional`.
This holds of names, which are looked up once more without their mark, and of lists that are not in
the table; an entry of a list does not count for the marked list.
-/
namespace OperationClasses

namespace TypeRef

/-- A list of a reference, marked or not. -/
def listOf (e : TypeRef) (isMarked : Bool) : TypeRef :=
  if isMarked then .nonNull (.list e) else .list e

/-- Which of the lists of a reference are marked, from the innermost outwards. -/
def listMarks : TypeRef → List Bool
  | .list e => e.listMarks ++ [false]
  | .nonNull (.list e) => e.listMarks ++ [true]
  | _ => []

variable {e t : TypeRef}

@[simp] theorem listMarks_listOf (e : TypeRef) (isMarked : Bool) :
    (e.listOf isMarked).listMarks = e.listMarks ++ [isMarked] := by
  cases isMarked <;> simp [listOf, listMarks]

@[simp] theorem element_listOf (e : TypeRef) (isMarked : Bool) :
    (e.listOf isMarked).element = e.element := by
  cases isMarked <;> simp [listOf, element]

/-- A reference that is no list: a name, marked or not. -/
inductive IsElement : TypeRef → Prop
  | named {name : String} : isName name → IsElement (.named (some name))
  | nonNull {name : String} : isName name → IsElement (.nonNull (.named (some name)))

/-- What holds of names, marked or not, and of lists of references of which it holds, holds of every
written reference. -/
theorem Written.of_listOf {motive : TypeRef → Prop} (ht : t.Written)
    (element : ∀ e, e.IsElement → motive e)
    (list : ∀ e isMarked, e.Written → motive e → motive (e.listOf isMarked)) : motive t := by
  induction ht with
  | named hname => exact element _ (.named hname)
  | nonNullNamed hname => exact element _ (.nonNull hname)
  | list he ih => exact list _ false he ih
  | nonNullList he ih => exact list _ true he ih

theorem IsElement.element_eq (h : e.IsElement) : e.element = e := by
  cases h <;> rfl

theorem IsElement.listMarks_eq (h : e.IsElement) : e.listMarks = [] := by
  cases h <;> rfl

theorem IsElement.written (h : e.IsElement) : e.Written := by
  cases h with
  | named hname => exact .named hname
  | nonNull hname => exact .nonNullNamed hname

theorem Written.isElement (ht : t.Written) : t.element.IsElement := by
  refine ht.of_listOf (motive := fun t => t.element.IsElement) (fun e he => ?_) fun e _ _ ih => ?_
  · rwa [he.element_eq]
  · rwa [element_listOf]

/-- A written reference is its element inside its lists. -/
theorem Written.eq_foldl (ht : t.Written) : t.listMarks.foldl listOf t.element = t := by
  refine ht.of_listOf (motive := fun t => t.listMarks.foldl listOf t.element = t)
    (fun e he => ?_) fun e isMarked _ ih => ?_
  · rw [he.listMarks_eq, he.element_eq, List.foldl_nil]
  · rw [listMarks_listOf, element_listOf, List.foldl_append, ih, List.foldl_cons, List.foldl_nil]

end TypeRef

/-- A list of a spelled element; one that is not marked may be missing. -/
def Target.listOf (t : Target) (element : String) (isMarked : Bool) : String :=
  if isMarked then t.listType element else t.optional (t.listType element)

namespace Resolver

variable {r : Resolver} {leaf? : Option String} {t e : TypeRef} {provenance : String}

/-- No key of the table of overrides is a list. -/
def SparesLists (r : Resolver) : Prop :=
  ∀ e : TypeRef, e.Written → ∀ isMarked, r.Passes (e.listOf isMarked)

/-- One list is wrapped around what is spelled inside. -/
theorem spell_listOf {isMarked : Bool} (h : r.override? leaf? (e.listOf isMarked) = none) :
    r.spell leaf? (e.listOf isMarked) =
      (r.spell leaf? e).map (r.target.listOf · isMarked) := by
  cases isMarked with
  | false =>
    simp only [TypeRef.listOf, Bool.false_eq_true, ↓reduceIte] at h ⊢
    rw [spell, h, orOptional]
    cases r.spell leaf? e <;> rfl
  | true =>
    simp only [TypeRef.listOf, ↓reduceIte] at h ⊢
    rw [spell, h]
    rfl

/-- The lists are wrapped around the spelled element one by one. -/
theorem spell_eq_foldl (ht : t.Written)
    (h : ∀ e : TypeRef, e.Written → ∀ isMarked, r.override? leaf? (e.listOf isMarked) = none) :
    r.spell leaf? t = (r.spell leaf? t.element).map (t.listMarks.foldl r.target.listOf) := by
  refine ht.of_listOf (motive := fun t => r.spell leaf? t =
    (r.spell leaf? t.element).map (t.listMarks.foldl r.target.listOf))
    (fun e he => ?_) fun e isMarked he ih => ?_
  · rw [he.listMarks_eq, he.element_eq]
    cases r.spell leaf? e <;> rfl
  · rw [spell_listOf (h e he isMarked), ih, TypeRef.listMarks_listOf, TypeRef.element_listOf]
    cases r.spell leaf? e.element with
    | error fault => rfl
    | ok core => simp [Except.map]

/-- A leaf in place of the name of an element. -/
theorem spell_leaf (he : e.IsElement) (leaf : String) :
    r.spell (some leaf) e = .ok (if e.isRequired then leaf else r.target.optional leaf) := by
  cases he <;> rfl

/-- A reference is resolved by wrapping lists around `core`, and its element as `core` itself. -/
structure WrapsAround (r : Resolver) (leaf? : Option String) (provenance : String) (t : TypeRef)
    (core : String) : Prop where
  inner : r.resolve leaf? provenance t.element = .ok core
  element : r.resolveElement leaf? provenance t = .ok core
  whole : r.resolve leaf? provenance t = .ok (t.listMarks.foldl r.target.listOf core)

theorem resolve_of_signature? (ht : t.signature?.isSome) :
    r.resolve leaf? provenance t =
      (r.spell leaf? t).mapError fun fault => ⟨provenance, fault.detail⟩ := by
  rw [resolve, if_neg (by simpa [Option.isNone_iff_eq_none] using Option.isSome_iff_ne_none.mp ht)]
  cases r.spell leaf? t <;> rfl

theorem resolve_of_spell {spelled : String} (ht : t.Written)
    (h : r.spell leaf? t = .ok spelled) : r.resolve leaf? provenance t = .ok spelled := by
  obtain ⟨text, htext, -⟩ := ht.signature?
  rw [resolve_of_signature? (by simp [htext]), h]
  rfl

theorem wrapsAround_of_spell {core : String} (ht : t.Written)
    (h : ∀ e : TypeRef, e.Written → ∀ isMarked, r.override? leaf? (e.listOf isMarked) = none)
    (hcore : r.spell leaf? t.element = .ok core) : r.WrapsAround leaf? provenance t core := by
  have hinner : r.resolve leaf? provenance t.element = .ok core :=
    resolve_of_spell ht.isElement.written hcore
  obtain ⟨text, htext, -⟩ := ht.signature?
  exact ⟨hinner, by simp [resolveElement, htext, hinner],
    resolve_of_spell ht (by rw [spell_eq_foldl ht h, hcore]; rfl)⟩

/-- A written reference is its element inside lists, and resolving it wraps these lists around what
the element resolves to, if no key of the table is a list. Around a given leaf the lists are wrapped
whatever the table holds. -/
theorem wrapsAround_of_written (ht : t.Written) (r : Resolver) (provenance : String) :
    t.element.IsElement ∧ t.listMarks.foldl TypeRef.listOf t.element = t ∧
      (r.SparesLists → ∃ core, r.WrapsAround none provenance t core) ∧
      ∀ leaf, r.WrapsAround (some leaf) provenance t
        (if t.element.isRequired then leaf else r.target.optional leaf) := by
  refine ⟨ht.isElement, ht.eq_foldl, fun hlists => ?_, fun leaf => ?_⟩
  · obtain ⟨core, hcore⟩ := Response.exists_spell ht.isElement.written r none
    exact ⟨core, wrapsAround_of_spell ht (fun e he isMarked =>
      override?_eq_none (hlists e he isMarked)) hcore⟩
  · exact wrapsAround_of_spell ht (fun _ _ _ => rfl) (spell_leaf ht.isElement leaf)

/-- A table spares lists if none of its keys begins with a bracket. -/
theorem sparesLists_of_head? (h : ∀ entry ∈ r.overrides, entry.1.toList.head? ≠ some '[') :
    r.SparesLists := by
  intro e he isMarked
  obtain ⟨text, htext, hne⟩ := he.signature?
  obtain ⟨key, hkey, hhead⟩ : ∃ key, (e.listOf isMarked).key? = some key ∧
      key.toList.head? = some '[' := by
    cases isMarked <;> simp [TypeRef.listOf, TypeRef.key?, TypeRef.signature?, TypeRef.nonEmpty?,
      htext, hne]
  refine ⟨key, hkey, fun hmem => ?_⟩
  obtain ⟨entry, hentry, rfl⟩ := List.mem_map.mp hmem
  exact h entry hentry hhead

/-- The resolver of C# as it is configured by default, without a schema at hand. -/
def plainCSharp : Resolver := ⟨.csharp, Target.csharp.overrides, Target.csharp.reservedWords, none⟩

/-- Two lists are wrapped for `[[Int!]]!`, around its element as around a given leaf. -/
theorem wrapsAround_nestedInts :
    plainCSharp.WrapsAround none "type"
      (.nonNull (.list (.list (.nonNull (.named (some "Int")))))) "int" ∧
    plainCSharp.WrapsAround (some "Node") "type"
      (.nonNull (.list (.list (.nonNull (.named (some "Int")))))) "Node" := by
  have ht : (TypeRef.nonNull (.list (.list (.nonNull (.named (some "Int")))))).Written :=
    .nonNullList (.list (.nonNullNamed rfl))
  obtain ⟨-, -, hlists, hleaf⟩ := wrapsAround_of_written ht plainCSharp "type"
  obtain ⟨core, hcore⟩ := hlists (sparesLists_of_head? (by decide +kernel))
  obtain rfl : "int" = core := Except.ok.inj hcore.inner
  exact ⟨hcore, hleaf "Node"⟩

/-- A marked reference falls back to the bare one: that one resolves to the same type made optional,
and an entry of the table for it is what the marked reference resolves to. -/
structure FallsBack (r : Resolver) (provenance : String) (t : TypeRef) : Prop where
  optional : r.resolve none provenance t =
    (r.resolve none provenance (.nonNull t)).map r.target.optional
  entry : ∀ spelled, r.override? none t = some spelled →
    r.resolve none provenance (.nonNull t) = .ok spelled

/-- A marked name falls back to the bare one whatever the table holds. -/
theorem fallsBack_named {name : String} (h : r.Passes (.nonNull (.named (some name)))) :
    r.FallsBack provenance (.named (some name)) := by
  have hmarked : r.resolve none provenance (.nonNull (.named (some name))) =
      .ok (r.spellName none name) := by
    rw [resolve_of_signature? h.signature?, spell, override?_eq_none h]
    rfl
  have hlookup : r.override? none (.named (some name)) = r.overrides.lookup name := rfl
  refine ⟨?_, fun spelled hspelled => ?_⟩
  · rw [hmarked, resolve_of_signature? rfl, spell, hlookup]
    cases hentry : r.overrides.lookup name with
    | none => rfl
    | some spelled =>
      have hname : r.spellName none name = spelled := by simp [spellName, hentry]
      rw [hname]
      rfl
  · rw [hlookup] at hspelled
    rw [hmarked, spellName, hspelled]

/-- A marked list resolves to a list of its elements unless it is in the table itself. -/
theorem resolve_nonNull_list (h : r.Passes (.nonNull (.list e))) (provenance : String) :
    r.resolve none provenance (.nonNull (.list e)) =
      (r.resolve none provenance e).map r.target.listType := by
  have he := isSome_signature?_of_list (isSome_signature?_of_nonNull h.signature?)
  rw [resolve_of_signature? h.signature?, resolve_of_signature? he, spell, override?_eq_none h]
  dsimp only
  rw [spellBare]
  cases r.spell none e <;> rfl

/-- A marked reference that is not in the table falls back to the bare one, unless this is a list
with an entry that differs from a list of its elements. -/
theorem fallsBack_iff (h : r.Passes (.nonNull t)) (ht : t.isRequired = false)
    (provenance : String) :
    r.FallsBack provenance t ↔ ∀ e, t = .list e → ∀ spelled, r.override? none t = some spelled →
      (r.resolve none provenance e).map r.target.listType = .ok spelled := by
  have hsome := isSome_signature?_of_nonNull h.signature?
  cases t with
  | named name? =>
    cases name? with
    | none => simp [TypeRef.signature?] at hsome
    | some name => exact ⟨fun _ _ heq => (by cases heq), fun _ => fallsBack_named h⟩
  | list e =>
    have hmarked := resolve_nonNull_list h provenance
    constructor
    · rintro hfalls _ ⟨⟩ spelled hlookup
      rw [← hmarked, hfalls.entry spelled hlookup]
    · intro hentry
      refine ⟨?_, fun spelled hlookup => hmarked.trans (hentry e rfl spelled hlookup)⟩
      rw [hmarked, resolve_of_signature? hsome, spell]
      cases hlookup : r.override? none (.list e) with
      | none =>
        rw [resolve_of_signature? (isSome_signature?_of_list hsome)]
        cases r.spell none e <;> rfl
      | some spelled =>
        rw [hentry e rfl spelled hlookup]
        rfl
  | nonNull t => cases ht
  | tableNamed members =>
    refine ⟨fun _ _ heq => (by cases heq), fun _ => ⟨?_, fun _ hlookup => by cases hlookup⟩⟩
    rw [resolve_of_signature? h.signature?, resolve_of_signature? hsome, spell, spell,
      override?_eq_none h]
    rfl
  | misnamed inside => simp [TypeRef.signature?] at hsome
  | other stray => simp [TypeRef.signature?] at hsome

/-- A table with entries for lists. -/
def listEntries : Resolver := ⟨.csharp, [("[Int]", "IntList"), ("[ID]", "List<ID>")], [], none⟩

/-- The entry for `[ID]` is what `[ID]!` resolves to without it. -/
theorem fallsBack_listEntries : listEntries.FallsBack "type" (.list (.named (some "ID"))) := by
  have hpasses : listEntries.Passes (.nonNull (.list (.named (some "ID")))) :=
    ⟨"[ID]!", rfl, by decide +kernel⟩
  refine (fallsBack_iff hpasses rfl "type").mpr fun e he spelled hlookup => ?_
  obtain rfl := TypeRef.list.inj he
  obtain rfl : "List<ID>" = spelled := Option.some.inj hlookup
  rfl

/-- The entry for `[Int]` does not count for `[Int]!`. -/
theorem not_fallsBack_listEntries :
    listEntries.Passes (.nonNull (.list (.named (some "Int")))) ∧
      ¬ listEntries.FallsBack "type" (.list (.named (some "Int"))) := by
  refine ⟨⟨"[Int]!", rfl, by decide +kernel⟩, fun hfalls => ?_⟩
  have hentry := hfalls.entry "IntList" rfl
  have hlist : listEntries.resolve none "type" (.nonNull (.list (.named (some "Int")))) =
      .ok "List<Int>" := rfl
  exact absurd (hentry.symm.trans hlist) (by decide +kernel)

end Resolver

end OperationClasses
