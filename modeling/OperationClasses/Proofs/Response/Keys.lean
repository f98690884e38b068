import OperationClasses.Proofs.Naming.Twins
import OperationClasses.Proofs.Response.Scopes
import OperationClasses.Proofs.Selection.LeadTypes

/-!
# Response keys of a class

A class of an answer holds one property for each response key of its level, in the order of the
level, whatever the selections are and whether their types are known. No key occurs twice in a
level, at any depth.
-/
namespace OperationClasses.Response

open Syntax Selection

variable {r : Resolver} {fields : List TypedField} {c d : ClassModel}

theorem propertyFor_leafProperty (r : Resolver) (key : String)
    (type : Except Unresolved TypeRef) : PropertyFor r key (leafProperty r key type) := by
  unfold leafProperty
  split
  · exact ⟨_, _, _, rfl⟩
  · split <;> exact ⟨_, _, _, rfl⟩

theorem propertyFor_objectProperty (r : Resolver) (key : String)
    (type : Except Unresolved TypeRef) (name : String) :
    PropertyFor r key (objectProperty r key type name) := by
  unfold objectProperty
  split <;> exact ⟨_, _, _, rfl⟩

/-- The properties of fields are those for their keys. -/
theorem forall₂_propertyFor_members (r : Resolver) (used : List String)
    (fields : List TypedField) :
    List.Forall₂ (PropertyFor r) (fields.map (·.key)) (members r used fields).1 := by
  induction fields generalizing used with
  | nil => simp [members]
  | cons f rest ih =>
    cases f with
    | leaf node key type =>
      rw [members]
      exact .cons (propertyFor_leafProperty r key type) (ih used)
    | object node key type children =>
      rw [members]
      exact .cons (propertyFor_objectProperty r key type _) (ih _)

/-- The members of a class are those of given fields. -/
def IsOfLevel (r : Resolver) (fields : List TypedField) (c : ClassModel) : Prop :=
  ∃ used, members r used fields = (c.properties, c.classes)

theorem IsOfLevel.forall₂_propertyFor (h : IsOfLevel r fields c) :
    List.Forall₂ (PropertyFor r) (fields.map (·.key)) c.properties := by
  obtain ⟨used, hmembers⟩ := h
  have hfor := forall₂_propertyFor_members r used fields
  rwa [hmembers] at hfor

theorem isOfLevel_classOf (node : NodeKind) (name : String) (used : List String)
    (fields : List TypedField) : IsOfLevel r fields (classOf node name (members r used fields)) := by
  cases node <;> exact ⟨used, rfl⟩

theorem isOfLevel_classNamed (r : Resolver) (name : String) (fields : List TypedField) :
    IsOfLevel r fields (classNamed r name fields) :=
  isOfLevel_classOf .field _ _ _

theorem exists_children_of_mem_members {used : List String} (h : c ∈ (members r used fields).2) :
    ∃ f ∈ fields, ∃ children, f.children? = some children ∧ IsOfLevel r children c := by
  induction fields generalizing used with
  | nil => simp [members] at h
  | cons f rest ih =>
    cases f with
    | leaf =>
      rw [members] at h
      obtain ⟨g, hg, hbelow⟩ := ih h
      exact ⟨g, List.mem_cons_of_mem _ hg, hbelow⟩
    | object node key type children =>
      rw [members] at h
      rcases List.mem_cons.mp h with rfl | h
      · exact ⟨_, List.mem_cons_self, children, rfl, isOfLevel_classOf ..⟩
      · obtain ⟨g, hg, hbelow⟩ := ih h
        exact ⟨g, List.mem_cons_of_mem _ hg, hbelow⟩

/-- Every class in a class of given fields is one of a level below them. -/
theorem exists_levelIn_of_nestedIn (hd : NestedIn c d) (hc : IsOfLevel r fields c) :
    ∃ level, LevelIn fields level ∧ IsOfLevel r level d := by
  induction hd generalizing fields with
  | itself => exact ⟨fields, .itself fields, hc⟩
  | @inside c _ n hn _ ih =>
    obtain ⟨used, hmembers⟩ := hc
    have hmem : n ∈ (members r used fields).2 := by rwa [hmembers]
    obtain ⟨f, hf, children, hchildren, hlevel⟩ := exists_children_of_mem_members hmem
    obtain ⟨level, hbelow, hd⟩ := ih hlevel
    exact ⟨level, .inside hf hchildren hbelow, hd⟩

/-- Every list of fields below a merged level is a merged level itself, read under its own lead. -/
theorem exists_merged_of_levelIn {s : Schema} {fragments : Fragments} {fuel : ℕ}
    {owned : List Owned} {l : Level}
    (h : mergeWithin fragments fuel (owned.map (·.2)) = some l) {lead? : Option String}
    {level : List TypedField} (hlevel : LevelIn (l.annotate s lead?) level) :
    ∃ fuel' lead'? owned' l', MergedBelow s fragments lead? owned lead'? owned' ∧
      mergeWithin fragments (fuel' + 1) (owned'.map (·.2)) = some l' ∧
      level = l'.annotate s lead'? := by
  generalize hfields : l.annotate s lead? = fields at hlevel
  induction hlevel generalizing fuel owned l lead? with
  | itself =>
    cases fuel with
    | zero => simp [mergeWithin] at h
    | succ fuel => exact ⟨fuel, lead?, owned, l, .here lead? owned, h, hfields.symm⟩
  | @inside _ children _ f hf hchildren _ ih =>
    cases fuel with
    | zero => simp [mergeWithin] at h
    | succ fuel =>
      rw [← hfields] at hf
      obtain ⟨key, hkey, htyped⟩ := exists_mem_of_forall₂ (forall₂_types (s := s) h lead?).flip hf
      obtain ⟨parent?, o, hfirst⟩ := exists_firstOf hkey
      obtain ⟨-, -, -, horigin⟩ := firstOf_spec hfirst
      cases o with
      | undefinedSpread name =>
        cases htyped with
        | leaf => cases hchildren
        | object h => cases horigin.symm.trans h
        | undefinedSpread => cases hchildren
      | field node condition? =>
        rcases htyped.children_cases horigin with ⟨-, hnone⟩ | ⟨inner, hinner, hchildren'⟩
        · cases hchildren.symm.trans hnone
        · rw [← map_snd_ownedBelow s] at hinner
          cases hchildren.symm.trans hchildren'
          obtain ⟨fuel', lead'?, owned', l', hbelow, hmerge, hlevel⟩ := ih hinner rfl
          exact ⟨fuel', lead'?, owned', l', .inside hfirst hbelow, hmerge, hlevel⟩

/-- No key occurs twice in a merged level, or in a level below it. -/
theorem nodup_key_of_levelIn {s : Schema} {fragments : Fragments} {fuel : ℕ}
    {sets : List (List Syntax.Selection)} {l : Level}
    (h : mergeWithin fragments fuel sets = some l) {parent? : Option String}
    {level : List TypedField} (hlevel : LevelIn (l.annotate s parent?) level) :
    (level.map (·.key)).Nodup := by
  have howned : mergeWithin fragments fuel ((sets.map fun set => ((none, set) : Owned)).map (·.2)) =
      some l := by
    simpa using h
  obtain ⟨_, lead?, _, l', -, hmerge, rfl⟩ := exists_merged_of_levelIn howned hlevel
  rw [map_key_annotate hmerge]
  exact nodup_keys _

end OperationClasses.Response
