import Mathlib.Data.List.Perm.Subperm
import OperationClasses.Proofs.Generation.Concatenation
import OperationClasses.Proofs.Response.Comments

/-!
# Filtered runs

Filters drop operations before anything is built and leave everything else of a document in its
place, so the operations that are left find the same fragments and contribute what they would have
contributed anyway. A run with filters is the run without them, filtered.
-/
namespace OperationClasses

open Syntax Text

namespace NameFilter

/-- A name has none of the excluded beginnings and endings of a filter, and those that it asks for.
An empty condition asks for nothing. -/
structure Passes (f : NameFilter) (name : String) : Prop where
  excludedStart : ∀ s, f.excludePrefix? = some s → s ≠ "" → ¬ s.toList <+: name.toList
  excludedEnd : ∀ s, f.excludeSuffix? = some s → s ≠ "" → ¬ s.toList <:+ name.toList
  includedStart : ∀ s, f.includePrefix? = some s → s ≠ "" → s.toList <+: name.toList
  includedEnd : ∀ s, f.includeSuffix? = some s → s ≠ "" → s.toList <:+ name.toList

theorem holds_eq_false {test : String → String → Bool} {name : String} {s? : Option String} :
    holds test name s? = false ↔ ∀ s, s? = some s → s ≠ "" → ¬ test name s := by
  cases s? <;> simp [holds]

theorem fails_eq_false {test : String → String → Bool} {name : String} {s? : Option String} :
    fails test name s? = false ↔ ∀ s, s? = some s → s ≠ "" → test name s := by
  cases s? <;> simp [fails]

theorem admits_iff {f : NameFilter} {name : String} : f.admits name = true ↔ f.Passes name := by
  have hadmits : f.admits name = true ↔ holds startsWith name f.excludePrefix? = false ∧
      holds endsWith name f.excludeSuffix? = false ∧
      fails startsWith name f.includePrefix? = false ∧
      fails endsWith name f.includeSuffix? = false := by
    simp [admits, and_assoc]
  simp only [hadmits, holds_eq_false, fails_eq_false, startsWith, endsWith,
    List.isPrefixOf_iff_prefix, List.isSuffixOf_iff_suffix]
  exact ⟨fun ⟨a, b, c, d⟩ => ⟨a, b, c, d⟩, fun ⟨a, b, c, d⟩ => ⟨a, b, c, d⟩⟩

instance (f : NameFilter) (name : String) : Decidable (f.Passes name) :=
  decidable_of_iff _ admits_iff

/-- Whether a definition passes each of several filters. -/
def keepsAll (filters : List NameFilter) (d : Definition) : Bool := filters.all (·.keeps d)

theorem keepsAll_operation {filters : List NameFilter} {o : Operation} {name : String}
    (h : o.name? = some name) :
    keepsAll filters (.operation o) = decide (∀ f ∈ filters, f.Passes name) := by
  rw [Bool.eq_iff_iff, keepsAll, List.all_eq_true, decide_eq_true_iff]
  simp only [keeps, h, admits_iff]

theorem keepsAll_anonymous {filters : List NameFilter} {o : Operation} (h : o.name? = none) :
    keepsAll filters (.operation o) = true := by
  simp [keepsAll, keeps, h]

theorem keepsAll_of_mem_iff {filters filters' : List NameFilter}
    (h : ∀ f, f ∈ filters' ↔ f ∈ filters) : keepsAll filters' = keepsAll filters := by
  funext d
  rw [Bool.eq_iff_iff, keepsAll, keepsAll, List.all_eq_true, List.all_eq_true]
  simp only [h]

end NameFilter

open NameFilter

/-- Several filters leave the definitions that pass each of them. -/
theorem Hooks.before_eq (h : Hooks) (docs : List SourceDocument) :
    h.before docs =
      docs.map fun d => { d with document := d.document.filter (keepsAll h.filters) } := by
  rw [Hooks.before]
  generalize h.filters = filters
  induction filters generalizing docs with
  | nil =>
    have hall : keepsAll [] = fun _ => true := rfl
    simp [hall]
  | cons f filters ih =>
    rw [List.foldl_cons, ih, NameFilter.apply, List.map_map]
    refine List.map_congr_left fun d _ => ?_
    have hstep : keepsAll (f :: filters) = fun x => keepsAll filters x && f.keeps x := by
      funext x
      exact Bool.and_comm _ _
    simp only [Function.comp_apply, List.filter_filter, hstep]

theorem Hooks.before_of_mem_iff (h h' : Hooks) (hfilters : ∀ f, f ∈ h'.filters ↔ f ∈ h.filters)
    (docs : List SourceDocument) : h'.before docs = h.before docs := by
  rw [before_eq, before_eq, keepsAll_of_mem_iff hfilters]

theorem ofDocument_filter_keepsAll (filters : List NameFilter) (doc : Document) :
    Fragments.ofDocument (doc.filter (keepsAll filters)) = Fragments.ofDocument doc := by
  rw [Fragments.ofDocument, Fragments.ofDocument, List.filterMap_filter]
  refine List.filterMap_congr fun d _ => ?_
  cases d <;> simp [keepsAll, keeps, Definition.fragment?]

theorem operations_filter_keepsAll (filters : List NameFilter) (doc : Document) :
    (doc.filter (keepsAll filters)).filterMap Definition.operation? =
      (doc.filterMap Definition.operation?).filter fun o => keepsAll filters (.operation o) := by
  rw [List.filterMap_filter, List.filter_filterMap]
  refine List.filterMap_congr fun d _ => ?_
  cases d with
  | operation o => simp [Definition.operation?, Option.filter_some]
  | _ => simp [Definition.operation?]

namespace Generator

/-- The operations that are left, with the fragments and the paths that they had. -/
theorem tasks_before (h : Hooks) (docs : List SourceDocument) :
    tasks (h.before docs) =
      (tasks docs).filter fun t => keepsAll h.filters (.operation t.operation) := by
  rw [Hooks.before_eq, tasks, tasks, List.flatMap_map, List.filter_flatMap]
  refine List.flatMap_congr fun d _ => ?_
  rw [ofDocument_filter_keepsAll, operations_filter_keepsAll, List.filter_map]
  rfl

/-- Whether the operation of a contribution passes each of several filters; where there is none,
nothing is to be passed. -/
def Contribution.passes (filters : List NameFilter) (c : Contribution) : Bool :=
  c.operation?.all fun m => ∀ f ∈ filters, f.Passes m.operationName

theorem passes_of_contribution (filters : List NameFilter) {r : Resolver} {s : Schema} {t : Task}
    {c : Contribution} (h : t.contribution r s = .ok c) :
    c.passes filters = keepsAll filters (.operation t.operation) := by
  obtain ⟨kind, hkind, ⟨hname, rfl⟩ | ⟨name, _, _, _, hname, -, -, -, -, rfl⟩⟩ :=
    contribution_eq_ok_iff.mp h
  · rw [keepsAll_anonymous hname]
    rfl
  · rw [keepsAll_operation hname]
    rfl

/-- What is left of documents contributes what it contributed to the run over all of them. -/
theorem contributions_before {r : Resolver} {s : Schema} {docs : List SourceDocument}
    {cs : List Contribution} (h : contributions r s docs = .ok cs) (hooks : Hooks) :
    contributions r s (hooks.before docs) = .ok (cs.filter (Contribution.passes hooks.filters)) := by
  rw [contributions, mapM_eq_ok_iff] at h ⊢
  rw [tasks_before]
  generalize tasks docs = ts at h ⊢
  induction h with
  | nil => exact .nil
  | @cons t c ts cs hc _ ih =>
    rw [List.filter_cons, List.filter_cons, passes_of_contribution hooks.filters hc]
    split
    · exact .cons hc ih
    · exact ih

theorem operations_filter_passes (filters : List NameFilter) (cs : List Contribution) :
    (cs.filter (Contribution.passes filters)).filterMap (·.operation?) =
      (cs.filterMap (·.operation?)).filter fun m => ∀ f ∈ filters, f.Passes m.operationName := by
  rw [List.filterMap_filter, List.filter_filterMap]
  refine List.filterMap_congr fun c _ => ?_
  cases hc : c.operation? <;> simp [Contribution.passes, hc, Option.filter_some]

/-- Fewer contributions meet no other enumerations, and none more often. -/
theorem subperm_enumerationsMet (s : Schema) {cs cs' : List Contribution} (h : cs' ⊆ cs) :
    (enumerationsMet s cs').Subperm (enumerationsMet s cs) := by
  have hnodup : (enumerationsMet s cs').Nodup := (nodup_enumerationsMet s cs').of_map
  refine hnodup.subperm fun d hd => ?_
  obtain ⟨hname, hd⟩ := mem_enumerationsMet.mp hd
  refine mem_enumerationsMet.mpr ⟨?_, hd⟩
  rw [namesMet, mem_meetAll] at hname ⊢
  refine hname.imp_right fun hspelled => ?_
  obtain ⟨c, hc, hspelled⟩ := List.mem_flatMap.mp hspelled
  exact List.mem_flatMap.mpr ⟨c, h hc, hspelled⟩

/-- The same run with other filters. -/
def filteredBy (g : Generator) (filters : List NameFilter) : Generator :=
  { g with hooks := { g.hooks with filters } }

theorem build_filteredBy_of_mem_iff (g : Generator) {filters filters' : List NameFilter}
    (h : ∀ f, f ∈ filters' ↔ f ∈ filters) :
    (g.filteredBy filters').build = (g.filteredBy filters).build := by
  have hbefore := Hooks.before_of_mem_iff (g.filteredBy filters).hooks
    (g.filteredBy filters').hooks h g.documents
  simp only [build, filteredBy] at hbefore ⊢
  rw [hbefore]
  rfl

/-- When the run without filters succeeds, so does the run with any filters. It has the operations
of the former whose names pass each of the filters, just as they were built there, and of its
enumerations some, none more often than there. The order of the filters does not matter, nor how
often each of them stands among them. -/
theorem build_filteredBy {g : Generator} {output : Output} {log : List LogEntry}
    (h : (g.filteredBy []).build = .ok (output, log)) (filters : List NameFilter) :
    ∃ output' log', (g.filteredBy filters).build = .ok (output', log') ∧
      output'.operations =
        output.operations.filter (fun m => ∀ f ∈ filters, f.Passes m.operationName) ∧
      output'.enums.Subperm output.enums ∧
      ∀ filters', (∀ f, f ∈ filters' ↔ f ∈ filters) →
        (g.filteredBy filters').build = .ok (output', log') := by
  obtain ⟨hs, cs, hcs, hspelled, houtput⟩ := build_eq_ok_iff.mp h
  have hdocuments : (g.filteredBy []).hooks.before g.documents = g.documents := rfl
  have hleft := contributions_before (hdocuments ▸ hcs) (g.filteredBy filters).hooks
  have henums := subperm_enumerationsMet g.schema
    (List.filter_subset_self (p := Contribution.passes filters) cs)
  have hbuild : (g.filteredBy filters).build =
      .ok (outputOf g.resolver g.schema (cs.filter (Contribution.passes filters))) := by
    refine build_eq_ok_iff.mpr ⟨hs, _, hleft, ?_, rfl⟩
    rw [requireSpelled_eq_ok] at hspelled ⊢
    intro name hname
    obtain ⟨d, hd, hname⟩ := List.mem_flatMap.mp hname
    exact hspelled name (List.mem_flatMap.mpr ⟨d, henums.subset hd, hname⟩)
  refine ⟨_, _, hbuild, ?_, ?_, fun filters' hmem => ?_⟩
  · rw [← congrArg (fun result => result.1.operations) houtput]
    exact operations_filter_passes filters cs
  · rw [← congrArg (fun result => result.1.enums) houtput]
    obtain ⟨met, hperm, hsub⟩ := henums
    exact ⟨met.map (enumModel g.resolver), hperm.map _, hsub.map _⟩
  · rw [build_filteredBy_of_mem_iff g hmem, hbuild]
    rfl

def ratedSchema : Schema where
  roots? := none
  directives := []
  types := [⟨none, false, "Query", [], .object []
      [⟨none, "film", [], .named (some "Film"), []⟩,
        ⟨none, "rating", [], .named (some "Rating"), []⟩]⟩,
    Response.oneField "Film" "genre" "Genre",
    ⟨none, false, "Genre", [], .enum [⟨none, "DRAMA", []⟩]⟩,
    ⟨none, false, "Rating", [], .enum [⟨none, "GOOD", []⟩]⟩]

/-- A query of one field. -/
def queryOf (name? : Option String) (selection : Syntax.Selection) : Definition :=
  .operation ⟨none, .parsed .query, name?, [], [], [selection], some "query"⟩

/-- Two named queries, one of them with a fragment, and a query without a name. -/
def ratedDocuments : List SourceDocument :=
  [⟨"rated.graphql", [queryOf (some "DebugRating") (Selection.plainField "rating" none),
    queryOf none (Selection.plainField "rating" none),
    queryOf (some "Watch") (Selection.plainField "film" (some [.spread "Parts" [] 0])),
    .fragment ⟨none, "Parts", "Film", [], [Selection.plainField "genre" none], some "fragment"⟩]⟩]

def ratedRun : Generator := ⟨ratedSchema, ratedDocuments, { target := "python" }, .python, {}⟩

def withoutDebug : NameFilter := { excludePrefix? := some "Debug", includeSuffix? := some "" }

theorem build_filteredBy_withoutDebug : ∃ output log output' log',
    (ratedRun.filteredBy []).build = .ok (output, log) ∧
      (ratedRun.filteredBy [withoutDebug, {}, withoutDebug]).build = .ok (output', log') ∧
      (ratedRun.filteredBy [{}, withoutDebug]).build = .ok (output', log') ∧
      output.operations.map (·.operationName) = ["DebugRating", "Watch"] ∧
      output'.operations.map (·.operationName) = ["Watch"] ∧
      output'.operations ⊆ output.operations ∧ output'.enums.Subperm output.enums := by
  have hbuilt : ((ratedRun.filteredBy []).build.toOption.map fun built =>
      built.1.operations.map (·.operationName)) = some ["DebugRating", "Watch"] := by
    decide +kernel
  obtain ⟨output, log, h, hnames⟩ :=
    exists_build_of_map (fun output => output.operations.map (·.operationName)) hbuilt
  obtain ⟨output', log', hbuild, hoperations, henums, hmem⟩ :=
    build_filteredBy h [withoutDebug, {}, withoutDebug]
  refine ⟨output, log, output', log', h, hbuild, hmem _ (by simp), hnames, ?_, ?_, henums⟩
  · have hfilter : output'.operations.map (·.operationName) =
        (output.operations.map (·.operationName)).filter
          fun name => ∀ f ∈ [withoutDebug, {}, withoutDebug], f.Passes name := by
      rw [hoperations, List.filter_map]
      rfl
    rw [hfilter, hnames]
    decide
  · rw [hoperations]
    exact List.filter_subset_self _

end Generator

end OperationClasses
