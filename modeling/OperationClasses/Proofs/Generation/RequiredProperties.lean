import OperationClasses.Proofs.Generation.PropertyNames
import OperationClasses.Proofs.Selection.Sites

/-!
# Required properties

A property of an answer is required when the field that comes first for its key, in a reading of the
selections that opens their fragments where they are spread, is declared non-null by the type it is
written under. So the answer has the property for all objects that meet the conditions around that
field. Nothing asks whether other objects can stand there: a field that is selected for some of them
only is required for all.
-/
namespace OperationClasses

open Syntax Selection

namespace Response

variable {r : Resolver} {s : Schema} {fragments : Fragments}

theorem isRequired_iff {t : TypeRef} : t.isRequired ↔ ∃ inner, t = .nonNull inner := by
  cases t <;> simp [TypeRef.isRequired]

theorem required_propertyOf (r : Resolver) (used : List String) {f : TypedField} (hf : Founded f) :
    (propertyOf r used f).required ↔ ∃ t, f.type = .ok (.nonNull t) := by
  have htype := hf.type
  cases f with
  | leaf node key type =>
    cases type with
    | error u => simp [propertyOf, leafProperty, untypedProperty, Property.of, TypedField.type]
    | ok t =>
      obtain ⟨spelled, hspelled, -⟩ := exists_resolve (htype t rfl) r none "selection"
      simp [propertyOf, leafProperty, hspelled, Property.of, TypedField.type, isRequired_iff]
  | object node key type children =>
    cases type <;> simp [propertyOf, objectProperty, Property.of, TypedField.type, isRequired_iff]

theorem propertyFor_propertyOf (r : Resolver) (used : List String) (f : TypedField) :
    PropertyFor r f.key (propertyOf r used f) := by
  cases f with
  | leaf => exact propertyFor_leafProperty r _ _
  | object => exact propertyFor_objectProperty r _ _ _

/-- The type that is found for a key is that of the field that comes first for it, unless the field
stands directly in a selection set of another type than the lead. -/
theorem type_nonNull_iff {fuel : ℕ} {lead? parent? : Option String} {owned : List Owned}
    {key : String} {f : TypedField}
    (htyped : Types s fragments fuel lead?
      (groupOf (levelOccurrences fragments (owned.map (·.2))) key) f)
    {site : Site} (hsite : firstSite? fragments owned key = some (parent?, site))
    (hlead : site.Direct → parent? = lead?) :
    (∃ t, f.type = .ok (.nonNull t)) ↔ site.NonNull s parent? := by
  have hfirst : firstOf fragments owned key = some (parent?, site.occurrence) := by
    rw [firstOf_eq_map, hsite]
    rfl
  obtain ⟨-, -, -, horigin⟩ := firstOf_spec hfirst
  cases site with
  | undefinedSpread node =>
    cases htyped with
    | leaf h => cases horigin.symm.trans h
    | object h => cases horigin.symm.trans h
    | undefinedSpread => simp [TypedField.type, Site.NonNull]
  | field around node =>
    have hparent : around.head?.or parent? = around.head?.or lead? := by
      cases around with
      | nil => rw [hlead rfl]
      | cons condition rest => rfl
    simp only [htyped.type_eq horigin, accounted_eq_ok, Site.NonNull, hparent]

/-- The property of a key of a merged level is required for the field that comes first: exactly if
that one is declared non-null by the type it is written under, except where it stands directly in a
selection set of another type than the lead. So for all objects of the enclosing type that meet the
conditions around that field, the key is selected and non-null. -/
def RequiredForFirst (s : Schema) (fragments : Fragments) (lead? : Option String)
    (owned : List Owned) (key : String) (p : Property) : Prop :=
  ∃ parent? site, firstSite? fragments owned key = some (parent?, site) ∧
    ((site.Direct → parent? = lead?) →
      (p.required ↔ site.NonNull s parent?) ∧
      (p.required → ∀ type ∈ parent?, ∀ object ∈ s.concreteTypes type,
        site.Applies s object → Guaranteed s fragments owned key object))

/-- The properties of the class of a merged level stand for its keys one by one, and each is
required for the field that comes first for its key. -/
theorem forall₂_requiredForFirst (hs : s.Written) {fuel : ℕ} {owned : List Owned} {l : Level}
    (h : mergeWithin fragments (fuel + 1) (owned.map (·.2)) = some l) (lead? : Option String)
    (name : String) :
    List.Forall₂ (fun key p => PropertyFor r key p ∧
        RequiredForFirst s fragments lead? owned key p)
      (keys (levelOccurrences fragments (owned.map (·.2))))
      (classNamed r name (l.annotate s lead?)).properties := by
  have hfounded : ∀ f ∈ l.annotate s lead?, Founded f :=
    fun f hf => founded_annotate hs h (.here hf)
  have hmade := forall₂_madeFor (r := r) hfounded (takenNames r name (l.annotate s lead?))
  refine (forall₂_comp (forall₂_types (s := s) h lead?) hmade).imp fun key p hlink => ?_
  obtain ⟨f, hf, htyped, used, rfl, -⟩ := hlink
  have hkey : f.key = key := htyped.key_eq
  refine ⟨hkey ▸ propertyFor_propertyOf r used f, ?_⟩
  have hmem : key ∈ keys (levelOccurrences fragments (owned.map (·.2))) := by
    rw [← map_key_annotate (s := s) h lead?, ← hkey]
    exact List.mem_map_of_mem hf
  obtain ⟨parent?, o, hfirst⟩ := exists_firstOf hmem
  obtain ⟨site, hsite, -⟩ := exists_firstSite hfirst
  refine ⟨parent?, site, hsite, fun hlead => ?_⟩
  have hiff := (required_propertyOf r used (hfounded f hf)).trans
    (type_nonNull_iff htyped hsite hlead)
  exact ⟨hiff, fun hp _ _ _ _ happlies => guaranteed_of_firstSite hsite happlies (hiff.mp hp)⟩

end Response

namespace Generator

open Response

/-- The classes of an answer are those of its typed fields, each the class of one merged level and
of the lead under which that is read. The properties of a class stand for the response keys of its
level in their order, and each is required for the field that comes first for its key. -/
theorem required_iff_of_build {g : Generator} (hschema : g.schema.Written) {output : Output}
    {log : List LogEntry} (h : g.build = .ok (output, log)) {m : OperationModel}
    (hm : m ∈ output.operations) :
    ∃ t ∈ tasks (g.hooks.before g.documents),
      t.label? = some (m.documentPath, m.kind, m.operationName) ∧
      ∃ fields notes, typedFields g.schema t.fragments m.kind t.operation = .ok (fields, notes) ∧
        m.response = ofOperation g.resolver fields ∧
        ∀ d, NestedIn m.response d → ∃ lead? owned fuel l,
          MergedBelow g.schema t.fragments (rootName? g.schema m.kind)
            [(rootName? g.schema m.kind, t.operation.selections)] lead? owned ∧
          mergeWithin t.fragments fuel (owned.map (·.2)) = some l ∧
          LevelIn fields (l.annotate g.schema lead?) ∧
          d = classNamed g.resolver d.name (l.annotate g.schema lead?) ∧
          List.Forall₂ (fun key p => PropertyFor g.resolver key p ∧
              RequiredForFirst g.schema t.fragments lead? owned key p)
            (keys (levelOccurrences t.fragments (owned.map (·.2)))) d.properties := by
  obtain ⟨t, ht, hlabel, l, hl, hresponse, -⟩ := exists_task_of_build h hm
  refine ⟨t, ht, hlabel, _, _, typedFields_of_merge? hl m.kind, hresponse, fun d hd => ?_⟩
  obtain ⟨level, hlevel, hclass, -⟩ := exists_level_of_nestedIn hd hresponse
    fun f hf => founded_annotate hschema hl hf
  have howned : mergeWithin t.fragments (depthBound t.fragments [t.operation.selections])
      ([(rootName? g.schema m.kind, t.operation.selections)].map (·.2)) = some l := hl
  obtain ⟨fuel, lead?, owned, l', hbelow, hmerge, rfl⟩ := exists_merged_of_levelIn howned hlevel
  refine ⟨lead?, owned, fuel + 1, l', hbelow, hmerge, hlevel, hclass, ?_⟩
  rw [hclass]
  exact forall₂_requiredForFirst hschema hmerge lead? d.name

/-- A union of a type with a required field and a type without it. -/
def memberSchema : Schema where
  roots? := none
  directives := []
  types := [oneField "Query" "node" "Node", ⟨none, false, "Node", [], .union ["A", "B"]⟩,
    ⟨none, false, "A", [], .object [] [⟨none, "x", [], .nonNull (.named (some "String")), []⟩]⟩,
    oneField "B" "y" "Int"]

/-- What is selected for the first member. -/
def memberSelections : List Syntax.Selection := [.inline (some "A") [] [plainField "x" none]]

def memberQuery : Operation :=
  ⟨none, .parsed .query, some "Q", [], [], [plainField "node" (some memberSelections)],
    some "query Q { node { ... on A { x } } }"⟩

def memberRun : Generator :=
  ⟨memberSchema, [⟨"members.graphql", [.operation memberQuery]⟩], { target := "csharp" }, .csharp,
    {}⟩

theorem written_memberSchema : memberSchema.Written := by
  intro d hd f hf
  simp only [memberSchema, oneField, List.mem_cons, List.not_mem_nil, or_false] at hd
  rcases hd with rfl | rfl | rfl | rfl <;>
    simp only [TypeDefinition.fields, List.mem_singleton, List.not_mem_nil] at hf <;> subst hf
  · exact .named (by decide)
  · exact .nonNullNamed (by decide)
  · exact .named (by decide)

/-- The field of the member with its type. -/
def memberField : TypedField :=
  .leaf (.field ⟨none, "x", [], [], none, 0⟩) "x" (.ok (.nonNull (.named (some "String"))))

/-- The field around what is selected for the member. -/
def nodeField : FieldNode := ⟨none, "node", [], [], some memberSelections, 0⟩

/-- The typed fields of the query. -/
def memberFields : List TypedField :=
  [.object (.field nodeField) "node" (.ok (.named (some "Node"))) [memberField]]

theorem exists_merge?_memberQuery : ∃ l, merge? [] [memberQuery.selections] = some l ∧
    l.annotate memberSchema (some "Query") = memberFields :=
  ⟨_, rfl, rfl⟩

theorem founded_memberFields : ∀ f, Within memberFields f → Founded f := by
  obtain ⟨l, hl, hfields⟩ := exists_merge?_memberQuery
  exact fun f hf => founded_annotate written_memberSchema hl (hfields ▸ hf)

theorem exists_required_memberRun : ∃ output log m, memberRun.build = .ok (output, log) ∧
    m ∈ output.operations ∧ ∃ d, NestedIn m.response d ∧ ∃ p ∈ d.properties,
      p.graphqlName = "x" ∧ p.required := by
  obtain ⟨output, log, hbuild, hnames⟩ :=
    exists_build_of_map (g := memberRun) (fun o => o.operations.map (·.kind))
      (show _ = some [.query] by decide +kernel)
  obtain ⟨m, hm, hkind⟩ := List.map_eq_singleton_iff.mp hnames
  have hmem : m ∈ output.operations := by simp [hm]
  have hresponse : m.response = classNamed memberRun.resolver className memberFields := by
    obtain ⟨l, hl, hfields⟩ := exists_merge?_memberQuery
    have h := response_of_onlyTask hbuild rfl hl hmem
    rw [hkind] at h
    exact h.trans (congrArg (ofOperation memberRun.resolver) hfields)
  have hlevel : LevelIn memberFields [memberField] :=
    .inside (List.mem_singleton_self _) rfl (.itself _)
  obtain ⟨d, hd, heq⟩ :=
    exists_nestedIn_of_level hlevel memberRun.resolver className founded_memberFields
  have hx := founded_memberFields _ (within_of_levelIn hlevel (.here (List.mem_singleton_self _)))
  have hmade := forall₂_madeFor (r := memberRun.resolver) (List.forall_mem_singleton.mpr hx)
    (takenNames memberRun.resolver d.name [memberField])
  obtain ⟨_, hp, used, rfl, -⟩ := exists_mem_of_forall₂ hmade (List.mem_singleton_self _)
  rw [← hresponse] at hd
  refine ⟨output, log, m, hbuild, hmem, d, hd, propertyOf memberRun.resolver used memberField, ?_,
    ?_, ?_⟩
  · rw [heq]
    exact hp
  · exact graphqlName_propertyOf _ _ ⟨hx, by decide⟩
  · exact (required_propertyOf _ _ hx).mpr ⟨_, rfl⟩

/-- The key of the member's field stands at one merged level. -/
theorem level_of_firstSite_memberQuery {lead? : Option String} {owned : List Owned}
    (h : MergedBelow memberSchema [] (some "Query") [(some "Query", memberQuery.selections)]
      lead? owned) {first : Option String × Site} (hfirst : firstSite? [] owned "x" = some first) :
    lead? = some "Node" ∧ owned = [(some "Node", memberSelections)] := by
  have hempty : ∀ {lead? lead'? owned}, MergedBelow memberSchema [] lead? [] lead'? owned →
      owned = [] := by
    rintro _ _ _ (_ | ⟨hfirst, -⟩)
    · rfl
    · cases hfirst
  cases h with
  | here => cases hfirst
  | @inside _ _ parent? _ _ key o hnode hrest =>
    have hoccurrences : ownedOccurrences [] [(some "Query", memberQuery.selections)] =
        [(some "Query", .field nodeField none)] := rfl
    have hmem := List.mem_of_find?_eq_some hnode
    rw [hoccurrences, List.mem_singleton] at hmem
    obtain ⟨rfl, rfl⟩ := Prod.mk.inj hmem
    obtain ⟨rfl, -⟩ := firstOf_spec hnode
    cases hrest with
    | here => exact ⟨rfl, rfl⟩
    | @inside _ _ parent? _ _ key o hx hrest =>
      have hbelow : ownedBelow memberSchema [] [(some "Node", memberSelections)] key = [] := by
        have hoccurrences : ownedOccurrences [] [(some "Node", memberSelections)] =
            [(some "Node", .field ⟨none, "x", [], [], none, 0⟩ (some "A"))] := rfl
        rw [ownedBelow, hoccurrences]
        by_cases hkey : "x" = key <;> simp [Occurrence.key, FieldNode.key, Occurrence.set?, hkey]
      have hnil := hempty (hbelow ▸ hrest)
      rw [hnil] at hfirst
      cases hfirst

theorem required_iff_memberRun : ∃ output log m, memberRun.build = .ok (output, log) ∧
    m ∈ output.operations ∧ ∃ d, NestedIn m.response d ∧
      (∃ p ∈ d.properties, p.graphqlName = "x" ∧ p.required) ∧
      Guaranteed memberSchema [] [(some "Node", memberSelections)] "x" "A" := by
  obtain ⟨output, log, m, hbuild, hm, d, hd, p, hp, hname, hrequired⟩ := exists_required_memberRun
  obtain ⟨t, ht, hlabel, _, _, -, -, hclasses⟩ :=
    required_iff_of_build written_memberSchema hbuild hm
  obtain rfl : t = ⟨[], "members.graphql", memberQuery⟩ := List.mem_singleton.mp ht
  have hkind : m.kind = .query := ((Prod.mk.inj (Prod.mk.inj (Option.some.inj hlabel)).2).1).symm
  obtain ⟨lead?, owned, _, _, hbelow, -, -, -, hproperties⟩ := hclasses d hd
  obtain ⟨key, -, hfor, parent?, site, hsite, hiff⟩ := exists_mem_of_forall₂ hproperties.flip hp
  obtain rfl : key = "x" :=
    (hfor.graphqlName_eq (isDefault_resolver (.inl rfl) rfl)).symm.trans hname
  rw [hkind] at hbelow
  obtain ⟨rfl, rfl⟩ := level_of_firstSite_memberQuery hbelow hsite
  obtain ⟨rfl, rfl⟩ :
      some "Node" = parent? ∧ .field ["A"] ⟨none, "x", [], [], none, 0⟩ = site :=
    Prod.mk.inj (Option.some.inj hsite)
  refine ⟨output, log, m, hbuild, hm, d, hd, ⟨p, hp, hname, hrequired⟩, ?_⟩
  have happlies : (Site.field ["A"] ⟨none, "x", [], [], none, 0⟩).Applies memberSchema "A" := by
    rintro condition hcondition
    obtain rfl := List.mem_singleton.mp hcondition
    decide
  exact (hiff fun _ => rfl).2 hrequired "Node" rfl "A" (by decide) happlies

/-- A property is required for the field of one member, and the other member does not have it. -/
theorem not_guaranteed_memberRun :
    Schema.build "" (documentOf memberSchema) = .ok memberRun.schema ∧
    ∃ output log m, memberRun.build = .ok (output, log) ∧ m ∈ output.operations ∧
      (∃ d, NestedIn m.response d ∧ ∃ p ∈ d.properties, p.graphqlName = "x" ∧ p.required) ∧
      MergedBelow memberSchema [] (some "Query") [(some "Query", memberQuery.selections)]
        (some "Node") [(some "Node", memberSelections)] ∧
      "B" ∈ memberSchema.concreteTypes "Node" ∧
      ¬ Guaranteed memberSchema [] [(some "Node", memberSelections)] "x" "B" := by
  obtain ⟨output, log, m, hbuild, hm, hrequired⟩ := exists_required_memberRun
  refine ⟨rfl, output, log, m, hbuild, hm, hrequired, ?_, by decide, ?_⟩
  · have hfirst : firstOf [] [(some "Query", memberQuery.selections)] "node" =
        some (some "Query", .field nodeField none) := rfl
    exact .inside hfirst (.here _ _)
  · rintro ⟨p, hp, -, happlies, -⟩
    have hsites : sites [] [(some "Node", memberSelections)] =
        [(some "Node", .field ["A"] ⟨none, "x", [], [], none, 0⟩)] := rfl
    rw [hsites] at hp
    obtain rfl := List.mem_singleton.mp hp
    have hB : "B" ∈ memberSchema.concreteTypes "A" := happlies "A" (by simp)
    exact absurd hB (by decide)

end Generator

end OperationClasses
