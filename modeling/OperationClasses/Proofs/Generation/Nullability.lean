import OperationClasses.Proofs.Generation.RequiredProperties
import OperationClasses.Proofs.Response.Identifiers

/-!
# Nullability

A property is marked as required from the reference it was made for, and its annotation is spelled
from that reference in another place, through overrides, the fallback of scalars and the names of
classes. In Python the two agree: what may be missing is annotated as `Any` or `Optional[…]`, and
unless an override says otherwise, what is required is not annotated as `Optional[…]`.
-/
namespace OperationClasses

open Syntax Response

/-- The annotation is written as one of a value that may be missing. -/
def StartsOptional (spelled : String) : Prop := "Optional[".toList <+: spelled.toList

instance (spelled : String) : Decidable (StartsOptional spelled) :=
  inferInstanceAs (Decidable (_ <+: _))

/-- A missing value is among those of the annotation. -/
def AdmitsMissing (spelled : String) : Prop :=
  spelled = Target.pythonAny ∨ StartsOptional spelled

theorem admitsMissing_pythonOptional (type : String) :
    AdmitsMissing (Target.pythonOptional type) := by
  unfold Target.pythonOptional
  split
  · next h =>
    rw [Bool.or_eq_true, List.isPrefixOf_iff_prefix, decide_eq_true_eq] at h
    exact h.symm
  · exact .inr (by simp [StartsOptional])

theorem not_startsOptional_of_isBracket {spelled : String}
    (h : ∀ c ∈ spelled.toList, isBracket c = false) : ¬ StartsOptional spelled := by
  intro hstarts
  have hbracket : '[' ∈ spelled.toList := hstarts.subset (by decide)
  exact absurd (h _ hbracket) (by decide)

theorem not_startsOptional_listType (element : String) :
    ¬ StartsOptional (Target.python.listType element) := by
  simp [StartsOptional, Target.python]

namespace Resolver

variable {r : Resolver} {leaf? : Option String} {t : TypeRef} {spelled : String}

/-- No override in use is annotated as one of a value that may be missing. -/
def OverridesPresent (r : Resolver) : Prop :=
  ∀ key spelled, r.overrides.lookup key = some spelled → ¬ StartsOptional spelled

theorem admitsMissing_orOptional (hr : r.target = .python) {override? : Option String}
    {bare : Except Fault String} (h : r.orOptional override? bare = .ok spelled) :
    AdmitsMissing spelled := by
  have hoptional : r.target.optional = Target.pythonOptional := by rw [hr]; rfl
  unfold orOptional at h
  rw [hoptional] at h
  split at h
  · cases h
    exact admitsMissing_pythonOptional _
  · obtain ⟨_, -, rfl⟩ := map_eq_ok.mp h
    exact admitsMissing_pythonOptional _

/-- A reference that is not required is spelled as one whose value may be missing, whatever the
overrides are. -/
theorem admitsMissing_of_spell (hr : r.target = .python) (ht : t.isRequired = false)
    (h : r.spell leaf? t = .ok spelled) : AdmitsMissing spelled := by
  cases t with
  | named name? =>
    cases name? with
    | none => cases h
    | some name => exact admitsMissing_orOptional hr h
  | list e => exact admitsMissing_orOptional hr h
  | nonNull t => cases ht
  | tableNamed members =>
    obtain ⟨_, -, rfl⟩ := map_eq_ok.mp h
    rw [show r.target.optional = Target.pythonOptional by rw [hr]; rfl]
    exact admitsMissing_pythonOptional _
  | misnamed inside => cases h
  | other stray => cases h

theorem not_startsOptional_spellName (hr : r.target = .python) (hpresent : r.OverridesPresent)
    (hleaf : ∀ leaf ∈ leaf?, ¬ StartsOptional leaf) {name : String} (hname : isName name) :
    ¬ StartsOptional (r.spellName leaf? name) := by
  have hescape : ¬ StartsOptional (r.escape name) := by
    refine not_startsOptional_of_isBracket fun c hc => ?_
    rcases mem_escape (.inr hr) hc with hc | rfl | rfl
    · exact isBracket_eq_false_of_isNamePart (isNamePart_of_mem hname hc)
    · decide
    · decide
  unfold spellName
  split
  · exact hleaf _ rfl
  · split
    · next found hfound => exact hpresent name found hfound
    · rw [hr]
      split
      · exact hescape
      · simp only [Target.python]
        split
        · decide
        · exact hescape

/-- A required reference is not spelled as one whose value may be missing, unless an override is. -/
theorem not_startsOptional_of_spell (hr : r.target = .python) (hpresent : r.OverridesPresent)
    (hleaf : ∀ leaf ∈ leaf?, ¬ StartsOptional leaf) (ht : ∀ name ∈ t.name?, isName name)
    (h : r.spell leaf? (.nonNull t) = .ok spelled) : ¬ StartsOptional spelled := by
  rw [spell] at h
  split at h
  · next found hfound =>
    cases h
    cases leaf? with
    | some leaf => cases hfound
    | none =>
      obtain ⟨key, -, hlookup⟩ := Option.bind_eq_some_iff.mp hfound
      exact hpresent key spelled hlookup
  · cases t with
    | named name? =>
      cases name? with
      | none => cases h
      | some name =>
        cases h
        exact not_startsOptional_spellName hr hpresent hleaf (ht name rfl)
    | list e =>
      obtain ⟨element, -, rfl⟩ := map_eq_ok.mp h
      rw [hr]
      exact not_startsOptional_listType element
    | nonNull t => cases h
    | tableNamed members =>
      cases leaf? with
      | none => cases h
      | some leaf =>
        cases h
        exact hleaf _ rfl
    | misnamed inside => cases h
    | other stray => cases h

/-- The reference itself, if it can be resolved. -/
def resolved? (r : Resolver) (provenance : String) (t : TypeRef) : Option TypeRef :=
  (r.resolve none provenance t).toOption.map fun _ => t

end Resolver

/-- The mark of a property and its annotation are those of the reference that was resolved for it;
without one, the property may be missing. -/
structure Nullability (r : Resolver) (ref? : Option TypeRef) (p : Property) : Prop where
  resolved : p.comment? = none ↔ ref?.isSome
  marked : p.required ↔ ∃ t, ref? = some (.nonNull t)
  missing : p.required = false → AdmitsMissing p.type
  present : r.OverridesPresent → p.required → ¬ StartsOptional p.type

variable {r : Resolver}

/-- A property with a resolved reference agrees with it. -/
theorem nullability_of_spell (hr : r.target = .python) {leaf? : Option String}
    (hleaf : ∀ leaf ∈ leaf?, ¬ StartsOptional leaf) {t : TypeRef}
    (ht : ∀ name ∈ t.name?, isName name) {spelled : String} (h : r.spell leaf? t = .ok spelled)
    (name graphqlName : String) :
    Nullability r (some t) (.of name spelled graphqlName t.isRequired none) where
  resolved := by simp [Property.of]
  marked := by simpa [Property.of] using isRequired_iff
  missing hp := r.admitsMissing_of_spell hr hp h
  present hpresent hp := by
    obtain ⟨inner, rfl⟩ := isRequired_iff.mp (show t.isRequired from hp)
    exact Resolver.not_startsOptional_of_spell hr hpresent hleaf (t := inner) ht h

/-- A property without one may be missing. -/
theorem nullability_of_unresolved {spelled : String} (h : AdmitsMissing spelled)
    (name graphqlName comment : String) :
    Nullability r none (.of name spelled graphqlName false (some comment)) where
  resolved := by simp [Property.of]
  marked := by simp [Property.of]
  missing _ := h
  present _ hp := by cases hp

namespace Input

/-- The properties of variables and input fields agree with their references. -/
theorem nullability_property (hr : r.target = .python) (provenance name : String) {t : TypeRef}
    (ht : ∀ name ∈ t.name?, isName name) :
    Nullability r (r.resolved? provenance t) (property r provenance name t) := by
  have hany : r.target.anyType = Target.pythonAny := by rw [hr]; rfl
  unfold Resolver.resolved? property
  cases h : r.resolve none provenance t with
  | error u => exact nullability_of_unresolved (.inl hany) _ _ _
  | ok spelled =>
    have hspell : r.spell none t = .ok spelled := by
      unfold Resolver.resolve at h
      split at h
      · cases h
      · split at h
        · next hspelled => rwa [← Except.ok.inj h]
        · cases h
    exact nullability_of_spell hr (by simp) ht hspell _ _

/-- The class of a request agrees with the types of its variables. -/
theorem forall₂_nullability_request (hr : r.target = .python) {vs : List VariableDefinition}
    (hnames : ∀ v ∈ vs, ∀ name ∈ v.type.name?, isName name) :
    List.Forall₂ (fun v p => PropertyFor r v.name p ∧
      Nullability r (r.resolved? "variable" v.type) p)
      vs (request r vs).properties := by
  rw [request, ClassModel.flat, ClassModel.properties_mk, List.forall₂_map_right_iff]
  exact List.forall₂_same.mpr fun v hv =>
    ⟨propertyFor_property r _ v.name v.type, nullability_property hr _ v.name (hnames v hv)⟩

/-- The class of an input type agrees with the types of its fields. -/
theorem forall₂_nullability_classOf (hr : r.target = .python) {type : TypeDefinition}
    (hnames : ∀ f ∈ type.inputFields, ∀ name ∈ f.type.name?, isName name) :
    List.Forall₂ (fun f p => PropertyFor r f.name p ∧
      Nullability r (r.resolved? "input" f.type) p)
      type.inputFields (classOf r type).properties := by
  rw [classOf, ClassModel.flat, ClassModel.properties_mk, List.forall₂_map_right_iff]
  exact List.forall₂_same.mpr fun f hf =>
    ⟨propertyFor_property r _ f.name f.type, nullability_property hr _ f.name (hnames f hf)⟩

end Input

namespace Response

/-- The properties of an answer agree with the types of their fields. -/
theorem nullability_propertyOf (hr : r.target = .python) {f : TypedField} (hf : Founded f)
    (hkey : f.children?.isSome → isName f.key) (used : List String) :
    Nullability r f.type.toOption (propertyOf r used f) := by
  have hnames : ∀ t, f.type = .ok t → ∀ name ∈ t.name?, isName name := by
    intro t ht name hname
    obtain ⟨name', hname', hisName⟩ := (hf.type t ht).name?
    rw [Option.mem_def, hname'] at hname
    exact Option.some.inj hname ▸ hisName
  cases f with
  | leaf node key type =>
    cases type with
    | error u =>
      have hany : r.target.anyType = Target.pythonAny := by rw [hr]; rfl
      exact nullability_of_unresolved (.inl hany) _ _ _
    | ok t =>
      obtain ⟨spelled, hresolve, hspell⟩ := exists_resolve (hf.type t rfl) r none "selection"
      simp only [propertyOf, leafProperty, hresolve]
      exact nullability_of_spell hr (by simp) (hnames t rfl) hspell _ _
  | object node key type children =>
    cases type with
    | error u =>
      have hoptional : r.target.optional = Target.pythonOptional := by rw [hr]; rfl
      simp only [propertyOf, objectProperty, hoptional]
      exact nullability_of_unresolved (admitsMissing_pythonOptional _) _ _ _
    | ok t =>
      have hregular : Regular (.object node key (.ok t) children) := ⟨hf, hkey rfl⟩
      have hown : ∀ own ∈ some (freeName r used key (.ok t)), ¬ StartsOptional own := by
        rintro _ ⟨⟩
        exact not_startsOptional_of_isBracket (isBracket_freeName (.inr hr) hregular used)
      obtain ⟨spelled, hresolve, hspell⟩ := exists_resolve (hf.type t rfl) r
        (some (freeName r used key (.ok t))) "selection"
      simp only [propertyOf, objectProperty, hresolve]
      exact nullability_of_spell hr hown (hnames t rfl) hspell _ _

open Selection in
/-- Every class of an answer agrees with the types at its level, field by field. -/
theorem exists_nullability_of_nestedIn (hr : r.target = .python) {s : Schema} (hs : s.Written)
    {fragments : Fragments} {fuel : ℕ} {sets : List (List Syntax.Selection)} {l : Level}
    (hl : mergeWithin fragments fuel sets = some l)
    (hnamed : ∀ set ∈ sets, Named fragments set) {lead? : Option String} {d : ClassModel}
    (hd : NestedIn (ofOperation r (l.annotate s lead?)) d) :
    ∃ level, LevelIn (l.annotate s lead?) level ∧ d = classNamed r d.name level ∧
      List.Forall₂ (fun f p => PropertyFor r f.key p ∧ Nullability r f.type.toOption p)
        level d.properties := by
  have hfounded : ∀ f, Within (l.annotate s lead?) f → Founded f :=
    fun f hf => founded_annotate hs hl hf
  obtain ⟨level, hlevel, hclass, hlevelFounded⟩ := exists_level_of_nestedIn hd rfl hfounded
  have hkey : ∀ f ∈ level, f.children?.isSome → isName f.key := fun f hf =>
    isName_key_of_within hl hnamed (within_of_levelIn hlevel (.here hf))
  refine ⟨level, hlevel, hclass, ?_⟩
  have hmade := forall₂_madeFor (r := r) hlevelFounded (takenNames r d.name level)
  rw [hclass]
  refine List.forall₂_iff_zip.mpr ⟨hmade.length_eq, fun {f p} hmem => ?_⟩
  obtain ⟨used, rfl, -⟩ := (List.forall₂_iff_zip.mp hmade).2 hmem
  have hf := (List.of_mem_zip hmem).1
  exact ⟨propertyFor_propertyOf r used f,
    nullability_propertyOf hr (hlevelFounded f hf) (hkey f hf) used⟩

end Response

namespace Generator

open Selection

/-- The properties of an answer, a request and all input classes of a run with Python are marked as
required exactly where a reference was resolved for them that is non-null, and their annotations
agree: what is not marked is annotated as `Any` or `Optional[…]`, and what is marked is not
annotated as `Optional[…]` unless an override is. -/
theorem nullability_of_build {g : Generator} (hpython : g.target = .python)
    (hschema : g.schema.Written)
    (hinputs : ∀ d ∈ g.schema.types, ∀ f ∈ d.inputFields, ∀ name ∈ f.type.name?, isName name)
    (htasks : ∀ t ∈ tasks (g.hooks.before g.documents),
      Named t.fragments t.operation.selections ∧
      ∀ v ∈ t.operation.variables, ∀ name ∈ v.type.name?, isName name)
    {output : Output} {log : List LogEntry} (h : g.build = .ok (output, log)) :
    ∀ m ∈ output.operations, ∃ t ∈ tasks (g.hooks.before g.documents),
      t.label? = some (m.documentPath, m.kind, m.operationName) ∧
      (∃ fields log', typedFields g.schema t.fragments m.kind t.operation = .ok (fields, log') ∧
        m.response = ofOperation g.resolver fields ∧
        ∀ d, NestedIn m.response d → ∃ level, LevelIn fields level ∧
          d = classNamed g.resolver d.name level ∧
          List.Forall₂ (fun f p => PropertyFor g.resolver f.key p ∧
            Nullability g.resolver f.type.toOption p) level d.properties) ∧
      (∀ d, NestedIn m.request d →
        List.Forall₂ (fun v p => PropertyFor g.resolver v.name p ∧
          Nullability g.resolver (g.resolver.resolved? "variable" v.type) p)
          t.operation.variables d.properties) ∧
      ∀ c ∈ m.inputClasses, ∃ type ∈ g.schema.types, c = Input.classOf g.resolver type ∧
        ∀ d, NestedIn c d →
          List.Forall₂ (fun f p => PropertyFor g.resolver f.name p ∧
            Nullability g.resolver (g.resolver.resolved? "input" f.type) p)
            type.inputFields d.properties := by
  intro m hm
  obtain ⟨t, ht, hlabel, l, hl, hresponse, hrequest, hclasses⟩ := exists_task_of_build h hm
  obtain ⟨hnamed, hvariables⟩ := htasks t ht
  refine ⟨t, ht, hlabel, ⟨_, _, typedFields_of_merge? hl m.kind, hresponse, fun d hd => ?_⟩,
    fun d hd => ?_, fun c hc => ?_⟩
  · rw [hresponse] at hd
    exact exists_nullability_of_nestedIn hpython hschema hl (by simpa using hnamed) hd
  · rw [hrequest] at hd
    rw [eq_of_nestedIn rfl hd]
    exact Input.forall₂_nullability_request hpython hvariables
  · rw [hclasses] at hc
    obtain ⟨type, htype, rfl⟩ := Input.exists_type_of_mem_expandVariables hc
    refine ⟨type, htype, rfl, fun d hd => ?_⟩
    rw [eq_of_nestedIn rfl hd]
    exact Input.forall₂_nullability_classOf hpython (hinputs type htype)

/-- A required count of a range whose end is open, and users by name. -/
def countSchema : Schema where
  roots? := none
  directives := []
  types := [⟨none, false, "Query", [], .object []
      [⟨none, "count", [⟨none, "of", .nonNull (.named (some "Range")), none, []⟩,
          plainInput "by" "Int"], .nonNull (.named (some "Int")), []⟩,
        ⟨none, "users", [], .nonNull (.list (.named (some "User"))), []⟩]⟩,
    oneField "User" "name" "String",
    ⟨none, false, "Range", [], .input
      [⟨none, "from", .nonNull (.named (some "Int")), none, []⟩, plainInput "to" "Int"]⟩]

def countQuery : Operation :=
  ⟨none, .parsed .query, some "Count", [⟨none, "of", .nonNull (.named (some "Range")), none, []⟩,
      ⟨none, "by", .named (some "Int"), none, []⟩], [],
    [.field none "count" [⟨"of", .variable "of", 0⟩, ⟨"by", .variable "by", 0⟩] [] none 0,
      plainField "users" (some [plainField "name" none]), plainField "ghost" none],
    some "query Count($of: Range!, $by: Int) { count(of: $of, by: $by) users { name } ghost }"⟩

def countRun : Generator :=
  ⟨countSchema, [⟨"counts.graphql", [.operation countQuery]⟩], { target := "python" }, .python, {}⟩

theorem written_countSchema : countSchema.Written := by
  intro d hd f hf
  simp only [countSchema, oneField, List.mem_cons, List.not_mem_nil, or_false] at hd
  rcases hd with rfl | rfl | rfl <;>
    simp only [TypeDefinition.fields, List.mem_cons, List.not_mem_nil, or_false] at hf
  · rcases hf with rfl | rfl
    · exact .nonNullNamed (by decide)
    · exact .nonNullList (.named (by decide))
  · exact hf ▸ .named (by decide)

theorem overridesPresent_countRun : countRun.resolver.OverridesPresent := by
  intro key spelled h
  have hall : ∀ entry ∈ Target.python.overrides, ¬ StartsOptional entry.2 := by decide
  obtain ⟨before, after, heq, -⟩ := List.lookup_eq_some_iff.mp h
  have hmem : (key, spelled) ∈ countRun.resolver.overrides := by simp [heq]
  exact hall (key, spelled) hmem

theorem nullability_countRun : ∃ output log, countRun.build = .ok (output, log) ∧
    output.operations.map (·.name) = ["queryCount"] ∧
    ∀ m ∈ output.operations, ∀ c ∈ m.response :: m.request :: m.inputClasses, ∀ p ∈ c.properties,
      (p.required = false → AdmitsMissing p.type) ∧ (p.required → ¬ StartsOptional p.type) := by
  obtain ⟨output, log, hbuild, hnames⟩ :=
    exists_build_of_map (g := countRun) (fun o => o.operations.map (·.name))
      (show _ = some ["queryCount"] by decide +kernel)
  have htasks : ∀ t ∈ tasks (countRun.hooks.before countRun.documents),
      Named t.fragments t.operation.selections ∧
      ∀ v ∈ t.operation.variables, ∀ name ∈ v.type.name?, isName name := by
    intro t ht
    obtain rfl : t = ⟨[], "counts.graphql", countQuery⟩ := List.mem_singleton.mp ht
    exact ⟨named_of_textKeys (by decide) (by decide), by decide⟩
  refine ⟨output, log, hbuild, hnames, fun m hm c hc p hp => ?_⟩
  obtain ⟨t, -, -, ⟨fields, log', -, -, hresponse⟩, hrequest, hclasses⟩ :=
    nullability_of_build rfl written_countSchema (by decide) htasks hbuild m hm
  have hagrees : ∃ ref?, Nullability countRun.resolver ref? p := by
    rw [List.mem_cons, List.mem_cons] at hc
    rcases hc with rfl | rfl | hc
    · obtain ⟨level, -, -, hlevel⟩ := hresponse _ (.itself _)
      obtain ⟨f, -, -, hp⟩ := exists_mem_of_forall₂ hlevel.flip hp
      exact ⟨_, hp⟩
    · obtain ⟨v, -, -, hp⟩ := exists_mem_of_forall₂ (hrequest _ (.itself _)).flip hp
      exact ⟨_, hp⟩
    · obtain ⟨type, -, -, hfields⟩ := hclasses c hc
      obtain ⟨f, -, -, hp⟩ := exists_mem_of_forall₂ (hfields c (.itself c)).flip hp
      exact ⟨_, hp⟩
  obtain ⟨ref?, hp⟩ := hagrees
  exact ⟨hp.missing, hp.present overridesPresent_countRun⟩

end Generator

end OperationClasses
