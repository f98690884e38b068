import OperationClasses.Proofs.Generation.PropertyNames
import OperationClasses.Proofs.Input.References
import OperationClasses.Proofs.Naming.Arrivals

/-!
# Enumerations of a run

A run declares the enumerations of its schema that the properties of named operations arrive at, in
the order in which the references of these properties are read: those of the leaves of an answer,
depth first, then those of the variables and of the input types behind them. Enumerations that
describe schemas are not among those of a schema, and are never declared.
-/
namespace OperationClasses

open Syntax

namespace Generator

variable {r : Resolver} {s : Schema} {t : Task} {c : Contribution} {ref : TypeRef}

/-- The references that are spelled for an operation, in the order in which they are read. For an
anonymous operation nothing is spelled. -/
def Task.references (s : Schema) (t : Task) : List TypeRef :=
  match t.operation.name?, t.operation.kind.kind?,
    Selection.merge? t.fragments [t.operation.selections] with
  | some _, some kind, some l =>
    Response.leafTypesAll (l.annotate s (rootName? s kind)) ++
      Input.references s t.operation.variables
  | _, _, _ => []

/-- A property of a named operation has a type reference: a leaf of the answer, a variable, or a
field of an input type that the variables reach. -/
def Task.Spells (s : Schema) (t : Task) (ref : TypeRef) : Prop :=
  t.operation.name?.isSome ∧
    ((∃ kind l, t.operation.kind.kind? = some kind ∧
        Selection.merge? t.fragments [t.operation.selections] = some l ∧
        Response.LeafOf (l.annotate s (rootName? s kind)) ref) ∨
      (∃ v ∈ t.operation.variables, v.type = ref) ∨
      ∃ d, Input.ReachedFrom s t.operation.variables d ∧ ∃ f ∈ d.inputFields, f.type = ref)

theorem mem_references_of_contribution (h : t.contribution r s = .ok c) :
    ref ∈ t.references s ↔ t.Spells s ref := by
  obtain ⟨kind, hkind, ⟨hname, -⟩ | ⟨name, fields, log, source, hname, hfields, -⟩⟩ :=
    contribution_eq_ok_iff.mp h
  · simp [Task.references, Task.Spells, hname]
  · obtain ⟨l, hl, -⟩ := exists_level_of_typedFields hfields
    have hkind' := kindOf_eq_ok_iff.mp hkind
    simp [Task.references, Task.Spells, hname, hkind', hl, Response.mem_leafTypesAll_iff,
      Input.mem_references_iff]

/-- What was met before, an operation adds the enumerations that its references meet. -/
theorem meetAll_spelled (h : t.contribution r s = .ok c) (met : List String) :
    meetAll met c.spelled = meetAll met ((t.references s).filterMap r.enumMet?) := by
  obtain ⟨kind, hkind, ⟨hname, rfl⟩ | ⟨name, fields, log, source, hname, hfields, -, -, -, rfl⟩⟩ :=
    contribution_eq_ok_iff.mp h
  · simp [Contribution.spelled, Task.references, hname]
  · obtain ⟨l, hl, rfl⟩ := exists_level_of_typedFields hfields
    have hspelled : (namedContribution r s t.path t.operation kind name source
        (l.annotate s (rootName? s kind)) log).spelled =
        Response.enumsMetAll r (l.annotate s (rootName? s kind)) ++
          (Input.expandVariables r s t.operation.variables {}).enums := rfl
    have hreferences : t.references s = Response.leafTypesAll (l.annotate s (rootName? s kind)) ++
        Input.references s t.operation.variables := by
      simp [Task.references, hname, kindOf_eq_ok_iff.mp hkind, hl]
    rw [hspelled, hreferences, List.filterMap_append, meetAll_append, meetAll_append,
      Response.enumsMetAll_eq, Input.enums_expandVariables, meetAll_eraseDups]

/-- A run meets enumerations in the order in which the references of its operations are read. -/
theorem namesMet_of_contributions {docs : List SourceDocument} {cs : List Contribution}
    (h : contributions r s docs = .ok cs) :
    namesMet cs = (((tasks docs).flatMap (Task.references s)).filterMap r.enumMet?).eraseDups := by
  have hmeet : ∀ met, meetAll met (cs.flatMap Contribution.spelled) =
      meetAll met (((tasks docs).flatMap (Task.references s)).filterMap r.enumMet?) := by
    rw [contributions, mapM_eq_ok_iff] at h
    generalize tasks docs = ts at h
    induction h with
    | nil => exact fun met => rfl
    | cons hc _ ih =>
      intro met
      rw [List.flatMap_cons, List.flatMap_cons, List.filterMap_append, meetAll_append,
        meetAll_append, meetAll_spelled hc, ih]
  rw [namesMet, hmeet, meetAll_nil]

theorem map_name_enumerationsMet {cs : List Contribution}
    (h : ∀ name ∈ namesMet cs, (s.enum? name).isSome) :
    (enumerationsMet s cs).map (·.name) = namesMet cs := by
  rw [enumerationsMet, List.map_filterMap, List.filterMap_congr (g := some), List.filterMap_some]
  intro name hname
  obtain ⟨d, hd⟩ := Option.isSome_iff_exists.mp (h name hname)
  rw [hd, Option.map_some, s.name_of_find? hd]

/-- The enumerations of an output are those of the schema that the references of named operations
arrive at past all overrides. They differ, stand in the order in which the references are read, and
each of them has all its values in their order. -/
theorem enums_of_build {g : Generator} {output : Output} {log : List LogEntry}
    (h : g.build = .ok (output, log)) :
    ∃ ds : List TypeDefinition, output.enums = ds.map (enumModel g.resolver) ∧
      (∀ d ∈ ds, g.schema.enum? d.name = some d) ∧ (ds.map (·.name)).Nodup ∧
      ds.map (·.name) = (((tasks (g.hooks.before g.documents)).flatMap
        (Task.references g.schema)).filterMap g.resolver.enumMet?).eraseDups ∧
      (∀ name, name ∈ ds.map (·.name) ↔ (g.schema.enum? name).isSome ∧
        ∃ t ∈ tasks (g.hooks.before g.documents), ∃ ref, t.Spells g.schema ref ∧
          g.resolver.Arrives ref name) ∧
      output.enums.map (fun e => e.members.map (·.value)) =
        ds.map fun d => d.enumValues.map (·.name) := by
  obtain ⟨cs, hcs, rfl⟩ := exists_contributions_of_build h
  have hnames := namesMet_of_contributions hcs
  have hiff : ∀ name, name ∈ namesMet cs ↔ (g.schema.enum? name).isSome ∧
      ∃ t ∈ tasks (g.hooks.before g.documents), ∃ ref, t.Spells g.schema ref ∧
        g.resolver.Arrives ref name := by
    intro name
    have hmet : ∀ ref, g.resolver.enumMet? ref = some name ↔
        g.resolver.Arrives ref name ∧ (g.schema.enum? name).isSome :=
      fun _ => Resolver.enumMet?_eq_some_iff
    have hspells : ∀ t ∈ tasks (g.hooks.before g.documents), ∀ ref,
        ref ∈ t.references g.schema ↔ t.Spells g.schema ref := by
      intro t ht ref
      obtain ⟨c, -, hc⟩ := Selection.exists_mem_of_forall₂ (mapM_eq_ok_iff.mp hcs) ht
      exact mem_references_of_contribution hc
    rw [hnames, List.mem_eraseDups, List.mem_filterMap]
    simp only [List.mem_flatMap, hmet]
    constructor
    · rintro ⟨ref, ⟨t, ht, href⟩, harrives, henum⟩
      exact ⟨henum, t, ht, ref, (hspells t ht ref).mp href, harrives⟩
    · rintro ⟨henum, t, ht, ref, href, harrives⟩
      exact ⟨ref, ⟨t, ht, (hspells t ht ref).mpr href⟩, harrives, henum⟩
  have hmap := map_name_enumerationsMet fun name hname => ((hiff name).mp hname).1
  refine ⟨enumerationsMet g.schema cs, rfl, fun d hd => (mem_enumerationsMet.mp hd).2,
    nodup_enumerationsMet g.schema cs, hmap.trans hnames, fun name => ?_, ?_⟩
  · rw [hmap, hiff]
  · simp [outputOf, enumModel]

/-- The genre of films is met in an answer and twice in an input type. -/
theorem enums_filmRun : ∃ output log, filmRun.build = .ok (output, log) ∧
    ∃ ds : List TypeDefinition, output.enums = ds.map (enumModel filmRun.resolver) ∧
      ds.map (·.name) = ["Genre"] ∧
      output.enums.map (fun e => e.members.map (·.value)) = [["DRAMA"]] := by
  obtain ⟨output, log, hbuild, -⟩ :=
    exists_build_of_map (g := filmRun) (fun o => o.operations.map (·.operationName))
      (show _ = some ["Rate"] by decide +kernel)
  obtain ⟨ds, henums, hknown, -, hnames, -, hvalues⟩ := enums_of_build hbuild
  have hmet : (((tasks (filmRun.hooks.before filmRun.documents)).flatMap
      (Task.references filmSchema)).filterMap filmRun.resolver.enumMet?).eraseDups = ["Genre"] := by
    decide +kernel
  have hds : ds.map (·.name) = ["Genre"] := hnames.trans hmet
  obtain ⟨d, rfl, hname⟩ := List.map_eq_singleton_iff.mp hds
  have henum := hknown d (List.mem_singleton_self d)
  rw [hname] at henum
  obtain rfl : ⟨none, false, "Genre", [], .enum [⟨none, "DRAMA", []⟩]⟩ = d := Option.some.inj henum
  exact ⟨output, log, hbuild, _, henums, hds, hvalues⟩

def selfSchema : Schema where
  roots? := none
  directives := []
  types := [Response.oneField "Query" "kind" "__TypeKind"]

def selfQuery : Operation :=
  ⟨none, .parsed .query, some "Q", [], [], [Selection.plainField "kind" none],
    some "query Q { kind }"⟩

def selfRun : Generator :=
  ⟨selfSchema, [⟨"self.graphql", [.operation selfQuery]⟩], { target := "python" }, .python, {}⟩

/-- A field of an answer has an enumeration for its type, and no override comes before it, but the
output declares none. -/
theorem enums_selfRun : Schema.build "" (documentOf selfSchema) = .ok selfRun.schema ∧
    ("__TypeKind", .enum) ∈ Schema.Standard.introspectionTypes ∧
    (∃ t ∈ tasks (selfRun.hooks.before selfRun.documents), ∃ ref,
      t.Spells selfRun.schema ref ∧ selfRun.resolver.Arrives ref "__TypeKind") ∧
    ∃ output log, selfRun.build = .ok (output, log) ∧
      output.operations.map (·.operationName) = ["Q"] ∧ output.enums = [] := by
  obtain ⟨output, log, hbuild, houtput⟩ :=
    exists_build_of_map (g := selfRun) (fun o => (o.operations.map (·.operationName), o.enums))
      (show _ = some (["Q"], []) by decide +kernel)
  obtain ⟨hnames, henums⟩ := Prod.mk.inj houtput
  have hpasses : selfRun.resolver.Passes (.named (some "__TypeKind")) :=
    ⟨"__TypeKind", rfl, by decide⟩
  refine ⟨rfl, by decide, ⟨⟨[], "self.graphql", selfQuery⟩, List.mem_singleton_self _,
    .named (some "__TypeKind"), ⟨rfl, .inl ⟨.query, _, rfl, rfl, ?_⟩⟩, .named hpasses⟩,
    output, log, hbuild, hnames, henums⟩
  exact ⟨_, .here (List.mem_singleton_self _), rfl, rfl⟩

end Generator

end OperationClasses
