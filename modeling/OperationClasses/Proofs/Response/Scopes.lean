import OperationClasses.Proofs.Response.Paths

/-!
# Scopes

A class, the classes nested in it and its properties share a scope. In every class of a tree the
nested classes have names of their own there, and the type of each property that stands for a
field with selections is the field's type around the name of the class of these selections.
-/
namespace OperationClasses.Response

open Syntax Selection

/-- A reference with a given name at its heart, as a target spells it. -/
def around (t : Target) (name : String) : TypeRef → String
  | .named _ | .misnamed _ | .tableNamed _ => t.optional name
  | .list e => t.optional (t.listType (around t name e))
  | .nonNull (.list e) => t.listType (around t name e)
  | .nonNull _ => name
  | .other _ => name

/-- The type of a property around the name of a class; about an unknown type nothing is known but
that its value may be missing. -/
def typeAround (t : Target) (name : String) : Except Unresolved TypeRef → String
  | .ok ref => around t name ref
  | .error _ => t.optional name

theorem spell_leaf {t : TypeRef} (h : t.Written) (r : Resolver) (leaf : String) :
    r.spell (some leaf) t = .ok (around r.target leaf t) := by
  induction h with
  | named => rfl
  | list _ ih =>
    rw [Resolver.spell, ih]
    rfl
  | nonNullNamed => rfl
  | nonNullList _ ih =>
    rw [Resolver.spell, Resolver.override?, Resolver.spellBare, ih]
    rfl

theorem type_objectProperty {type : Except Unresolved TypeRef}
    (htype : ∀ t, type = .ok t → t.Written) (r : Resolver) (key name : String) :
    (objectProperty r key type name).type = typeAround r.target name type := by
  cases type with
  | error u => rfl
  | ok t =>
    obtain ⟨spelled, hresolve, hspell⟩ := exists_resolve (htype t rfl) r (some name) "selection"
    rw [spell_leaf (htype t rfl)] at hspell
    cases hspell
    simp only [objectProperty, hresolve]
    rfl

/-- No two nested classes share a name, and none bears that of the class or of a property. -/
structure HasFreeNames (c : ClassModel) : Prop where
  nodup : (c.classes.map (·.name)).Nodup
  own : c.name ∉ c.classes.map (·.name)
  properties : ∀ p ∈ c.properties, p.name ∉ c.classes.map (·.name)

theorem name_propertyOf (r : Resolver) (used : List String) (f : TypedField) :
    (propertyOf r used f).name = r.escape f.key := by
  cases f with
  | leaf node key type =>
    simp only [propertyOf, leafProperty, untypedProperty]
    split
    · rfl
    · split <;> rfl
  | object node key type children =>
    simp only [propertyOf, objectProperty]
    split <;> rfl

theorem hasFreeNames_classNamed (r : Resolver) (name : String) {fields : List TypedField}
    (hfounded : ∀ f ∈ fields, Founded f) : HasFreeNames (classNamed r name fields) := by
  obtain ⟨hnodup, hfree⟩ := names_members r (takenNames r name fields) hfounded
  have htaken : ∀ taken ∈ takenNames r name fields,
      taken ∉ (classNamed r name fields).classes.map (·.name) := by
    intro taken htaken hmem
    obtain ⟨c, hc, rfl⟩ := List.mem_map.mp hmem
    exact hfree c hc htaken
  refine ⟨hnodup, htaken name List.mem_cons_self, fun p hp => htaken p.name ?_⟩
  have hmade := forall₂_madeFor (r := r) hfounded (takenNames r name fields)
  obtain ⟨f, hf, used, rfl, -⟩ := exists_mem_of_forall₂ hmade.flip hp
  rw [name_propertyOf]
  exact List.mem_cons_of_mem _ (List.mem_map_of_mem hf)

/-- The type of a property is the type of its field around a name that is borne by the class of
the field's selections, and by no other class. -/
def NamesOwnClass (r : Resolver) (c : ClassModel) (f : TypedField) (p : Property) : Prop :=
  ∀ children, f.children? = some children → ∃ name,
    p.type = typeAround r.target name f.type ∧
    classNamed r name children ∈ c.classes ∧
    c.findClass? name = some (classNamed r name children) ∧
    ∀ n ∈ c.classes, n.name = name → n = classNamed r name children

theorem forall₂_namesOwnClass (r : Resolver) (name : String) {fields : List TypedField}
    (hfounded : ∀ f ∈ fields, Founded f) :
    List.Forall₂ (NamesOwnClass r (classNamed r name fields)) fields
      (classNamed r name fields).properties := by
  have hnodup := (hasFreeNames_classNamed r name hfounded).nodup
  have hmade := forall₂_madeFor (r := r) hfounded (takenNames r name fields)
  refine List.forall₂_iff_zip.mpr ⟨hmade.length_eq, fun {f p} hmem children hchildren => ?_⟩
  have hf := hfounded f (List.of_mem_zip hmem).1
  obtain ⟨used, rfl, hnested⟩ := (List.forall₂_iff_zip.mp hmade).2 hmem
  have hclass := hnested children hchildren
  have hfind := find?_label hnodup hclass
  refine ⟨freeName r used f.key f.type, ?_, hclass, hfind, fun n hn hname => ?_⟩
  · cases f with
    | leaf => cases hchildren
    | object node key type below => exact type_objectProperty hf.type r key _
  · have hfind' := find?_label hnodup hn
    rw [hname] at hfind'
    exact Option.some.inj (hfind'.symm.trans hfind)

/-- The lists of fields in a tree: the whole list and those below its fields. -/
inductive LevelIn : List TypedField → List TypedField → Prop where
  | itself (fields : List TypedField) : LevelIn fields fields
  | inside {fields children level : List TypedField} {f : TypedField} :
      f ∈ fields → f.children? = some children → LevelIn children level → LevelIn fields level

theorem within_of_levelIn {fields level : List TypedField} (h : LevelIn fields level)
    {f : TypedField} (hf : Within level f) : Within fields f := by
  induction h with
  | itself => exact hf
  | inside hmem hchildren _ ih => exact .inside hmem hchildren (ih hf)

theorem exists_level_of_nestedIn {r : Resolver} {c d : ClassModel} (h : NestedIn c d)
    {name : String} {fields : List TypedField} (hc : c = classNamed r name fields)
    (hfounded : ∀ f, Within fields f → Founded f) :
    ∃ level, LevelIn fields level ∧ d = classNamed r d.name level ∧ ∀ f ∈ level, Founded f := by
  induction h generalizing name fields with
  | itself c =>
    subst hc
    exact ⟨fields, .itself fields, rfl, fun f hf => hfounded f (.here hf)⟩
  | inside hn _ ih =>
    subst hc
    obtain ⟨f, used, children, hmem, hchildren, rfl⟩ :=
      exists_field_of_mem_members (fun g hg => hfounded g (.here hg)) hn
    have hf := (List.of_mem_zip hmem).1
    obtain ⟨level, hlevel, hd⟩ := ih rfl fun g hg => hfounded g (.inside hf hchildren hg)
    exact ⟨level, .inside hf hchildren hlevel, hd⟩

theorem exists_nestedIn_of_level {fields level : List TypedField} (h : LevelIn fields level)
    (r : Resolver) (name : String) (hfounded : ∀ f, Within fields f → Founded f) :
    ∃ d, NestedIn (classNamed r name fields) d ∧ d = classNamed r d.name level := by
  induction h generalizing name with
  | itself fields => exact ⟨_, .itself _, rfl⟩
  | @inside fields children level f hf hchildren _ ih =>
    have hnames := forall₂_namesOwnClass r name fun g hg => hfounded g (.here hg)
    obtain ⟨p, -, hp⟩ := exists_mem_of_forall₂ hnames hf
    obtain ⟨childName, -, hclass, -⟩ := hp children hchildren
    obtain ⟨d, hd, heq⟩ := ih childName fun g hg => hfounded g (.inside hf hchildren hg)
    exact ⟨d, .inside hclass hd, heq⟩

/-- In every class that is emitted for a tree of typed fields, at any depth, the nested classes
have names that are free in their scope, and the property of each field with selections has the
field's type around the name of the class of these selections and of no other. Each list of fields
in the tree has its class. The search for a free name ends at the first number that makes one. -/
theorem hasFreeNames_of_nestedIn (r : Resolver) (name : String) {fields : List TypedField}
    (hfounded : ∀ f, Within fields f → Founded f) :
    (∀ d, NestedIn (classNamed r name fields) d → HasFreeNames d ∧
      ∃ level, LevelIn fields level ∧ d = classNamed r d.name level ∧
        List.Forall₂ (NamesOwnClass r d) level d.properties) ∧
    (∀ level, LevelIn fields level →
      ∃ d, NestedIn (classNamed r name fields) d ∧ d = classNamed r d.name level) ∧
    ∀ used base, ∃ i : ℕ, numbered used base = base ++ toString (i + 2) ∧
      base ++ toString (i + 2) ∉ used ∧ ∀ j < i, base ++ toString (j + 2) ∈ used := by
  refine ⟨fun d hd => ?_, fun level hlevel => ?_, exists_numbered⟩
  · obtain ⟨level, hlevel, heq, hlevelFounded⟩ := exists_level_of_nestedIn hd rfl hfounded
    rw [heq]
    exact ⟨hasFreeNames_classNamed r _ hlevelFounded,
      level, hlevel, rfl, forall₂_namesOwnClass r _ hlevelFounded⟩
  · exact exists_nestedIn_of_level hlevel r name hfounded

/-- A field of a required type with one leaf below it. -/
def userField (key : String) : TypedField :=
  .object (.field ⟨none, key, [], [], some [plainField "name" none], 0⟩) key
    (.ok (.nonNull (.named (some "User"))))
    [.leaf (.field ⟨none, "name", [], [], none, 0⟩) "name" (.ok (.named (some "String")))]

/-- Two users, and a leaf whose response key is the name of their type. -/
def bookFields : List TypedField :=
  [.leaf (.field ⟨some "User", "title", [], [], none, 0⟩) "User" (.ok (.named (some "String"))),
    userField "author", userField "editor"]

def bookResolver : Resolver := ⟨.python, [], [], none⟩

theorem founded_bookFields (f : TypedField) (h : Within bookFields f) : Founded f := by
  have hstring : ∀ t, (Except.ok (.named (some "String")) : Except Unresolved TypeRef) = .ok t →
      t.Written := by
    rintro t ⟨⟩
    exact .named (by decide)
  have huser : ∀ t, (Except.ok (.nonNull (.named (some "User"))) : Except Unresolved TypeRef) =
      .ok t → t.Written := by
    rintro t ⟨⟩
    exact .nonNullNamed (by decide)
  cases h with
  | here hmem =>
    simp only [bookFields, userField, List.mem_cons, List.not_mem_nil, or_false] at hmem
    rcases hmem with rfl | rfl | rfl
    · exact ⟨hstring, fun h => nomatch h⟩
    · exact ⟨huser, fun _ => rfl⟩
    · exact ⟨huser, fun _ => rfl⟩
  | inside hmem hchildren hbelow =>
    simp only [bookFields, userField, List.mem_cons, List.not_mem_nil, or_false] at hmem
    rcases hmem with rfl | rfl | rfl <;> cases hchildren <;> cases hbelow with
    | here hname =>
      rw [List.mem_singleton.mp hname]
      exact ⟨hstring, fun h => nomatch h⟩
    | inside hname hbelow =>
      rw [List.mem_singleton.mp hname] at hbelow
      cases hbelow

theorem hasFreeNames_bookFields :
    (∀ f, Within bookFields f → Founded f) ∧
      ∀ d, NestedIn (classNamed bookResolver "Response" bookFields) d → HasFreeNames d ∧
        ∃ level, LevelIn bookFields level ∧ d = classNamed bookResolver d.name level ∧
          List.Forall₂ (NamesOwnClass bookResolver d) level d.properties :=
  ⟨founded_bookFields,
    (hasFreeNames_of_nestedIn bookResolver "Response" founded_bookFields).1⟩

end OperationClasses.Response
