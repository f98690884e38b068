import OperationClasses.Proofs.Naming.Annotations
import OperationClasses.Proofs.Response.Scopes

/-!
# Identifiers in response classes

In Python, the annotations of a response class use words that every module knows, enumerations
that the operation meets, and the names of classes that are nested right in the class.
-/
namespace OperationClasses.Response

open Syntax Selection

variable {r : Resolver} {s : Schema} {names : String → Prop}

theorem usesOnly_around {name : String} (h : UsesOnly names name) {t : TypeRef} (ht : t.Written) :
    UsesOnly names (around .python name t) := by
  induction ht with
  | named => exact h.optional
  | list _ ih => exact ih.list.optional
  | nonNullNamed => exact h
  | nonNullList _ ih => exact ih.list

/-- The type of a field with selections uses only the name of the class of these selections. -/
theorem usesOnly_objectProperty (hr : r.target = .python) {type : Except Unresolved TypeRef}
    (htype : ∀ t, type = .ok t → t.Written) {name : String} (h : UsesOnly names name)
    (key : String) : UsesOnly names (objectProperty r key type name).type := by
  rw [type_objectProperty htype, hr]
  cases type with
  | error u => exact h.optional
  | ok t => exact usesOnly_around h (htype t rfl)

/-- The names of nested classes consist of letters, digits and underscores. -/
theorem plain_freeName (hr : r.target = .python) {f : TypedField} (hf : Regular f)
    (used : List String) : Plain (freeName r used f.key f.type).toList :=
  forall_mem_freeName (fun _ h => h) (fun _ => plain_escape hr) hf used

/-- A field without selections whose type, if it is known, is a scalar or an enumeration. -/
def LeafTyped (s : Schema) (f : TypedField) : Prop :=
  f.children? = none → ∀ t, f.type = .ok t → ∃ name, t.name? = some name ∧ s.IsLeaf name

/-- A word is the name of an enumeration that a leaf among fields meets. -/
def LeafMeets (r : Resolver) (s : Schema) (fields : List TypedField) (word : String) : Prop :=
  ∃ f, Within fields f ∧ f.children? = none ∧ ∃ t, f.type = .ok t ∧ MeetsEnum r s t word

theorem usesOnly_leafProperty (hr : r.IsPython) (hschema : r.schema? = some s)
    {type : Except Unresolved TypeRef} (htype : ∀ t, type = .ok t → t.Written)
    (hleaf : ∀ t, type = .ok t → ∃ name, t.name? = some name ∧ s.IsLeaf name) (key : String) :
    UsesOnly (fun word => ∃ t, type = .ok t ∧ MeetsEnum r s t word)
      (leafProperty r key type).type := by
  have hany : r.target.anyType = "Any" := by rw [hr.target]; rfl
  cases type with
  | error u =>
    change UsesOnly _ r.target.anyType
    rw [hany]
    exact usesOnly_word (by decide)
  | ok t =>
    have hspell := spell_leafProperty (htype t rfl) r key
    obtain ⟨name, hname, hknown⟩ := hleaf t rfl
    exact (usesOnly_leaf hr hschema (htype t rfl) hname hknown hspell).mono fun _ h => ⟨t, rfl, h⟩

/-- The properties of a class use only enumerations that leaves meet and the names of classes
nested in it. -/
theorem usesOnly_classNamed (hr : r.IsPython) (hschema : r.schema? = some s) (name : String)
    {level : List TypedField} (hfounded : ∀ f ∈ level, Founded f)
    (hkeys : ∀ f ∈ level, f.children?.isSome → isName f.key) (hleaves : ∀ f ∈ level, LeafTyped s f) :
    ∀ p ∈ (classNamed r name level).properties,
      UsesOnly (fun word => LeafMeets r s level word ∨
        word ∈ (classNamed r name level).classes.map (·.name)) p.type := by
  intro p hp
  have hmade := forall₂_madeFor (r := r) hfounded (takenNames r name level)
  obtain ⟨f, hf, used, rfl, hnested⟩ := exists_mem_of_forall₂ hmade.flip hp
  have htype := (hfounded f hf).type
  cases f with
  | leaf node key type =>
    refine (usesOnly_leafProperty hr hschema htype (hleaves _ hf rfl) key).mono fun word h => ?_
    obtain ⟨t, ht, hmeets⟩ := h
    exact .inl ⟨_, .here hf, rfl, t, ht, hmeets⟩
  | object node key type children =>
    have hregular : Regular (.object node key type children) :=
      ⟨hfounded _ hf, hkeys _ hf rfl⟩
    refine usesOnly_objectProperty hr.target htype (usesOnly_name ?_ (.inr ?_)) key
    · exact plain_freeName hr.target hregular used
    · exact List.mem_map.mpr ⟨_, hnested children rfl, rfl⟩

/-- In every class of an answer, at any depth, the properties use only enumerations that leaves
meet and the names of classes nested right in the class. -/
theorem usesOnly_of_nestedIn (hr : r.IsPython) (hschema : r.schema? = some s) (name : String)
    {fields : List TypedField} (hfounded : ∀ f, Within fields f → Founded f)
    (hkeys : ∀ f, Within fields f → f.children?.isSome → isName f.key)
    (hleaves : ∀ f, Within fields f → LeafTyped s f) {d : ClassModel}
    (hd : NestedIn (classNamed r name fields) d) :
    ∀ p ∈ d.properties, UsesOnly (fun word => LeafMeets r s fields word ∨
      word ∈ d.classes.map (·.name)) p.type := by
  obtain ⟨level, hlevel, heq, hlevelFounded⟩ := exists_level_of_nestedIn hd rfl hfounded
  have hwithin : ∀ f ∈ level, Within fields f := fun f hf => within_of_levelIn hlevel (.here hf)
  rw [heq]
  intro p hp
  refine (usesOnly_classNamed hr hschema d.name hlevelFounded
    (fun f hf => hkeys f (hwithin f hf)) (fun f hf => hleaves f (hwithin f hf)) p hp).mono ?_
  refine fun word h => h.imp_left fun ⟨f, hf, hmeets⟩ => ⟨f, within_of_levelIn hlevel hf, hmeets⟩

mutual

/-- The known types of the leaves at a field, in their order. -/
def leafTypes : TypedField → List TypeRef
  | .leaf _ _ type => type.toOption.toList
  | .object _ _ _ children => leafTypesAll children

def leafTypesAll : List TypedField → List TypeRef
  | [] => []
  | f :: rest => leafTypes f ++ leafTypesAll rest

end

variable {f g : TypedField} {fields : List TypedField} {t : TypeRef}

/-- The type of a leaf among fields, or below them, is known. -/
def LeafOf (fields : List TypedField) (t : TypeRef) : Prop :=
  ∃ f, Within fields f ∧ f.children? = none ∧ f.type = .ok t

theorem within_of_subset {fields' : List TypedField} (h : Within fields g)
    (hsub : fields ⊆ fields') : Within fields' g := by
  cases h with
  | here hmem => exact .here (hsub hmem)
  | inside hmem hchildren hg => exact .inside (hsub hmem) hchildren hg

theorem within_cons : Within (f :: fields) g ↔ Within [f] g ∨ Within fields g := by
  constructor
  · rintro (hmem | ⟨hmem, hchildren, hg⟩)
    · rcases List.mem_cons.mp hmem with rfl | hmem
      · exact .inl (.here (List.mem_singleton_self _))
      · exact .inr (.here hmem)
    · rcases List.mem_cons.mp hmem with rfl | hmem
      · exact .inl (.inside (List.mem_singleton_self _) hchildren hg)
      · exact .inr (.inside hmem hchildren hg)
  · rintro (h | h)
    · exact within_of_subset h (by simp)
    · exact within_of_subset h (by simp)

theorem within_singleton :
    Within [f] g ↔ g = f ∨ ∃ children, f.children? = some children ∧ Within children g := by
  constructor
  · rintro (hmem | ⟨hmem, hchildren, hg⟩)
    · exact .inl (List.mem_singleton.mp hmem)
    · rw [List.mem_singleton.mp hmem] at hchildren
      exact .inr ⟨_, hchildren, hg⟩
  · rintro (rfl | ⟨children, hchildren, hg⟩)
    · exact .here (List.mem_singleton_self _)
    · exact .inside (List.mem_singleton_self _) hchildren hg

mutual

theorem mem_leafTypes_iff : ∀ {f : TypedField}, t ∈ leafTypes f ↔ LeafOf [f] t
  | .leaf node key type => by
    simp only [leafTypes, LeafOf, within_singleton, TypedField.children?, reduceCtorEq, false_and,
      exists_false, or_false, exists_eq_left, true_and, TypedField.type, Option.mem_toList]
    cases type <;> simp [Except.toOption]
  | .object node key type children => by
    rw [leafTypes, mem_leafTypesAll_iff]
    refine exists_congr fun g => ?_
    rw [within_singleton]
    constructor
    · exact fun ⟨hg, hleaf⟩ => ⟨.inr ⟨children, rfl, hg⟩, hleaf⟩
    · rintro ⟨rfl | ⟨_, ⟨⟩, hg⟩, hleaf, htype⟩
      · cases hleaf
      · exact ⟨hg, hleaf, htype⟩

/-- The references that are read off an answer are the known types of its leaves. -/
theorem mem_leafTypesAll_iff : ∀ {fields : List TypedField},
    t ∈ leafTypesAll fields ↔ LeafOf fields t
  | [] => by
    simp only [leafTypesAll, List.not_mem_nil, false_iff]
    rintro ⟨f, (hmem | ⟨hmem, -, -⟩), -, -⟩ <;> cases hmem
  | f :: rest => by
    rw [leafTypesAll, List.mem_append, mem_leafTypes_iff, mem_leafTypesAll_iff, LeafOf, LeafOf,
      LeafOf, ← exists_or]
    refine exists_congr fun g => ?_
    have hwithin : Within (f :: rest) g ↔ Within [f] g ∨ Within rest g := within_cons
    rw [hwithin, or_and_right]

end

mutual

theorem enumsMet_eq : ∀ f : TypedField, enumsMet r f = (leafTypes f).filterMap r.enumMet?
  | .leaf node key (.ok t) => by
    cases h : r.enumMet? t <;> simp [enumsMet, leafTypes, Except.toOption, h]
  | .leaf node key (.error u) => rfl
  | .object node key type children => enumsMetAll_eq children

/-- The enumerations that an answer spells are those of its leaves. -/
theorem enumsMetAll_eq : ∀ fields : List TypedField,
    enumsMetAll r fields = (leafTypesAll fields).filterMap r.enumMet?
  | [] => rfl
  | f :: rest => by
    rw [enumsMetAll, leafTypesAll, List.filterMap_append, enumsMet_eq, enumsMetAll_eq]

end

theorem mem_enumsMetAll {fields : List TypedField} {f : TypedField} (h : Within fields f)
    (hleaf : f.children? = none) {t : TypeRef} (htype : f.type = .ok t) {name : String}
    (hname : r.enumMet? t = some name) : name ∈ enumsMetAll r fields := by
  rw [enumsMetAll_eq]
  exact List.mem_filterMap.mpr ⟨t, mem_leafTypesAll_iff.mpr ⟨f, h, hleaf, htype⟩, hname⟩

/-- Where fields are selected under names, those with selections bear names. -/
theorem isName_key_of_within {fragments : Fragments} {fuel : ℕ}
    {sets : List (List Syntax.Selection)} {l : Level}
    (h : mergeWithin fragments fuel sets = some l) (hsets : ∀ set ∈ sets, Named fragments set)
    {parent? : Option String} {f : TypedField} (hf : Within (l.annotate s parent?) f)
    (hchildren : f.children?.isSome) : isName f.key := by
  obtain ⟨_, _, sets', key, hsets', hkey, htyped⟩ :=
    exists_types_of_within h (fun _ _ _ hset => Named.below hset) hsets hf
  obtain ⟨o, ho, rfl, horigin⟩ := exists_origin_groupOf hkey
  obtain ⟨set, hset, hoccurs⟩ := mem_levelOccurrences.mp ho
  rw [htyped.key_eq]
  cases htyped with
  | leaf => cases hchildren
  | undefinedSpread => cases hchildren
  | object hfield =>
    cases o with
    | undefinedSpread name =>
      rw [horigin] at hfield
      cases hfield
    | field node c => exact hsets' set hset _ (.last hoccurs) _ (List.mem_singleton_self _)

end OperationClasses.Response
