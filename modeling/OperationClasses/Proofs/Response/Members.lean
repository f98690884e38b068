import OperationClasses.Proofs.Response.ClassNames
import OperationClasses.Proofs.Selection.TypedLevels

/-!
# Members of a class

Every typed field becomes a property of its class, and one with selections a nested class as
well, under a name that was free when the field was met. The property bears the response key of
the field, and a comment only if the type of the field is unknown.
-/
namespace OperationClasses.Response

open Syntax

/-- The property of a field that is met when the names `used` are taken. -/
def propertyOf (r : Resolver) (used : List String) : TypedField → Property
  | .leaf _ key type => leafProperty r key type
  | .object _ key type _ => objectProperty r key type (freeName r used key type)

/-- The class of a field's selections when the names `used` are taken. -/
def nestedClass (r : Resolver) (used : List String) (f : TypedField)
    (children : List TypedField) : ClassModel :=
  classNamed r (freeName r used f.key f.type) children

/-- A property is made for a field, and the class of the field's selections with it. -/
def MadeFor (r : Resolver) (classes : List ClassModel) (f : TypedField) (p : Property) : Prop :=
  ∃ used, p = propertyOf r used f ∧
    ∀ children, f.children? = some children → nestedClass r used f children ∈ classes

theorem MadeFor.mono {r : Resolver} {classes classes' : List ClassModel} {f : TypedField}
    {p : Property} (h : MadeFor r classes f p) (hsub : classes ⊆ classes') :
    MadeFor r classes' f p := by
  obtain ⟨used, hp, hnested⟩ := h
  exact ⟨used, hp, fun children hchildren => hsub (hnested children hchildren)⟩

/-- The properties of a class are made for its fields, one by one. -/
theorem forall₂_madeFor {r : Resolver} {fields : List TypedField}
    (hfounded : ∀ f ∈ fields, Founded f) (used : List String) :
    List.Forall₂ (MadeFor r (members r used fields).2) fields (members r used fields).1 := by
  induction fields generalizing used with
  | nil => simp [members]
  | cons f rest ih =>
    rw [List.forall_mem_cons] at hfounded
    cases f with
    | leaf node key type =>
      simp only [members]
      exact .cons ⟨used, rfl, fun children hchildren => by cases hchildren⟩ (ih hfounded.2 used)
    | object node key type children =>
      rw [members_object hfounded.1]
      refine .cons ⟨used, rfl, ?_⟩ ((ih hfounded.2 _).imp fun _ _ h => h.mono (by simp))
      intro children' hchildren
      cases hchildren
      exact List.mem_cons_self

/-- Every nested class is made for a field. -/
theorem exists_field_of_mem_members {r : Resolver} {fields : List TypedField}
    (hfounded : ∀ f ∈ fields, Founded f) {used : List String} {n : ClassModel}
    (h : n ∈ (members r used fields).2) :
    ∃ f used' children, (f, propertyOf r used' f) ∈ fields.zip (members r used fields).1 ∧
      f.children? = some children ∧ n = nestedClass r used' f children := by
  induction fields generalizing used with
  | nil => simp [members] at h
  | cons f rest ih =>
    rw [List.forall_mem_cons] at hfounded
    cases f with
    | leaf =>
      simp only [members] at h ⊢
      obtain ⟨g, used', below, hmem, hn⟩ := ih hfounded.2 h
      exact ⟨g, used', below, List.mem_cons_of_mem _ hmem, hn⟩
    | object node key type children =>
      rw [members_object hfounded.1] at h ⊢
      simp only [List.mem_cons] at h ⊢
      rcases h with rfl | h
      · exact ⟨_, used, children, List.mem_cons_self, rfl, rfl⟩
      · obtain ⟨g, used', below, hmem, hn⟩ := ih hfounded.2 h
        exact ⟨g, used', below, List.mem_cons_of_mem _ hmem, hn⟩

/-- A class stands in a class, at any depth. -/
inductive NestedIn : ClassModel → ClassModel → Prop where
  | itself (c : ClassModel) : NestedIn c c
  | inside {c d n : ClassModel} : n ∈ c.classes → NestedIn n d → NestedIn c d

theorem graphqlName_of {name type key : String} {required : Bool} {comment? : Option String}
    (hkey : isName key) : (Property.of name type key required comment?).graphqlName = key := by
  simp [Property.of, ne_empty_of_isName hkey]

theorem graphqlName_propertyOf (r : Resolver) (used : List String) {f : TypedField}
    (hf : Regular f) : (propertyOf r used f).graphqlName = f.key := by
  have hkey := hf.key
  cases f with
  | leaf node key type =>
    simp only [propertyOf, leafProperty, untypedProperty]
    split
    · exact graphqlName_of hkey
    · split <;> exact graphqlName_of hkey
  | object node key type children =>
    simp only [propertyOf, objectProperty]
    split <;> exact graphqlName_of hkey

theorem comment?_propertyOf (r : Resolver) (used : List String) {f : TypedField}
    (hf : Founded f) : (propertyOf r used f).comment? = none ↔ ∃ t, f.type = .ok t := by
  have htype := hf.type
  cases f with
  | leaf node key type =>
    cases type with
    | error u => simp [propertyOf, leafProperty, untypedProperty, Property.of, TypedField.type]
    | ok t =>
      obtain ⟨spelled, hspelled, -⟩ := exists_resolve (htype t rfl) r none "selection"
      simp [propertyOf, leafProperty, hspelled, Property.of, TypedField.type]
  | object node key type children =>
    cases type <;> simp [propertyOf, objectProperty, Property.of, TypedField.type]

open Selection in
theorem founded_of_types {s : Schema} (hs : s.Written) {fragments : Fragments} {fuel : ℕ}
    {parent? : Option String} {g : Group} {f : TypedField}
    (h : Types s fragments fuel parent? g f) : Founded f := by
  cases h with
  | leaf => exact ⟨fun t ht => written_of_accounted hs ht, fun hchildren => (by cases hchildren)⟩
  | object => exact ⟨fun t ht => written_of_accounted hs ht, fun _ => rfl⟩
  | undefinedSpread => exact ⟨fun t ht => (by cases ht), fun hchildren => (by cases hchildren)⟩

open Selection in
/-- Typed fields are founded at every depth. -/
theorem founded_annotate {s : Schema} (hs : s.Written) {fragments : Fragments} {fuel : ℕ}
    {sets : List (List Syntax.Selection)} {l : Level}
    (h : mergeWithin fragments fuel sets = some l) {parent? : Option String} {f : TypedField}
    (hf : Within (l.annotate s parent?) f) : Founded f := by
  obtain ⟨_, _, _, _, -, -, htyped⟩ := exists_types_of_within h
    (fun _ _ _ _ _ _ => trivial) (fun _ _ => trivial) hf
  exact founded_of_types hs htyped

end OperationClasses.Response
