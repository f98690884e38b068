import OperationClasses.Proofs.Generation.PropertyNames
import OperationClasses.Proofs.Input.Hoisting
import OperationClasses.Proofs.Input.Order

/-!
# Input classes of a run

The input classes of a run are those of all its named operations, put together. Where no two input
types share an escaped name there is one for each type that a variable of some operation leads to,
behind the classes of all that its type needs, as far as these do not lead back to it: whatever the
order of the operations is and whatever their types have in common.
-/
namespace OperationClasses.Generator

open Syntax Response Input

/-- The input types that variables of named operations lead to. -/
def ReachedBy (s : Schema) (ts : List Task) (d : TypeDefinition) : Prop :=
  ∃ t ∈ ts, t.operation.name?.isSome ∧ ReachedFrom s t.operation.variables d

/-- The variables of named operations. -/
def namedVariables (ts : List Task) : List (List VariableDefinition) :=
  (ts.filter (·.operation.name?.isSome)).map (·.operation.variables)

theorem reachedBy_iff {s : Schema} {ts : List Task} {d : TypeDefinition} :
    ReachedBy s ts d ↔ ∃ vs ∈ namedVariables ts, ReachedFrom s vs d := by
  simp [ReachedBy, namedVariables, and_assoc]

/-- The classes of variables are expanded for each named operation on its own. -/
theorem flatMap_inputClasses {r : Resolver} {s : Schema} {docs : List SourceDocument}
    {cs : List Contribution} (h : contributions r s docs = .ok cs) :
    (cs.filterMap (·.operation?)).flatMap (·.inputClasses) =
      (namedVariables (tasks docs)).flatMap fun vs => (expandVariables r s vs {}).classes := by
  rw [contributions, mapM_eq_ok_iff] at h
  generalize tasks docs = ts at h ⊢
  induction h with
  | nil => rfl
  | @cons t c ts cs hc _ ih =>
    obtain ⟨kind, -, ⟨hname, rfl⟩ | ⟨name, _, _, _, hname, -, -, -, -, rfl⟩⟩ :=
      contribution_eq_ok_iff.mp hc
    · simpa [namedVariables, hname] using ih
    · simp only [namedVariables, List.filterMap_cons, namedContribution, List.flatMap_cons, ih,
        List.filter_cons, hname, Option.isSome_some, if_true, List.map_cons]
      rfl

theorem flatMap_inputClasses_of_build {g : Generator} {output : Output} {log : List LogEntry}
    (h : g.build = .ok (output, log)) :
    output.operations.flatMap (·.inputClasses) =
      (namedVariables (tasks (g.hooks.before g.documents))).flatMap fun vs =>
        (expandVariables g.resolver g.schema vs {}).classes := by
  obtain ⟨cs, hcs, rfl⟩ := exists_contributions_of_build h
  exact flatMap_inputClasses hcs

/-- Where no two input types share an escaped name, the input classes of a run are those of the
types that variables of named operations lead to, each once, with a property for each field. What a
type needs that does not lead back to it stands before it, with all that this leads to; and what a
circle leads to stands before one of the types on the circle. -/
theorem hoisted_of_build {g : Generator} (hapart : NamesApart g.resolver g.schema)
    {output : Output} {log : List LogEntry} (h : g.build = .ok (output, log)) :
    ∃ types : List TypeDefinition,
      output.inputClasses = types.map (classOf g.resolver) ∧
      (∀ d, d ∈ types ↔ ReachedBy g.schema (tasks (g.hooks.before g.documents)) d) ∧
      (types.map (·.name)).Nodup ∧ (output.inputClasses.map (·.name)).Nodup ∧
      (∀ d ∈ types, List.Forall₂ (StandsForField g.resolver) d.inputFields
        (classOf g.resolver d).properties) ∧
      (∀ before c after, types = before ++ c :: after → ∀ x d, Needs g.schema c x →
        ¬ Reaches g.schema x c → Reaches g.schema x d → d ∈ before) ∧
      ∀ c d, c ∈ types → Reaches g.schema c d → ¬ Reaches g.schema d c →
        ∃ before c' after, types = before ++ c' :: after ∧
          Reaches g.schema c c' ∧ Reaches g.schema c' c ∧ d ∈ before := by
  obtain ⟨types, hfold, hhoisted, hmem⟩ := exists_hoisted_foldl hapart
    (namedVariables (tasks (g.hooks.before g.documents))) (hoisted_nil g.schema)
  rw [← flatMap_inputClasses_of_build h] at hfold
  refine ⟨types, hfold, fun d => ?_, hhoisted.nodup, output.nodup_name_inputClasses,
    fun d _ => forall₂_standsForField g.resolver d, ?_, ?_⟩
  · rw [hmem, reachedBy_iff]
    simp
  · exact fun before c after hsplit x d hneeds hback hreach =>
      hhoisted.ordered.mem_before hsplit hneeds hback hreach
  · exact fun c d hc hreach hback => hhoisted.exists_before hc hreach hback

/-- Folders and their owners, looked up by two fields. -/
def driveSchema : Schema where
  roots? := none
  directives := []
  types := [⟨none, false, "Query", [], .object []
      [⟨none, "size", [plainInput "folder" "Folder"], .named (some "Int"), []⟩,
        ⟨none, "quota", [plainInput "owner" "Owner"], .named (some "Int"), []⟩]⟩,
    folderInput, entryInput, ownerInput]

def sizeQuery : Operation :=
  ⟨none, .parsed .query, some "Size", [folderVariable], [],
    [.field none "size" [⟨"folder", .variable "folder", 36⟩] [] none 30],
    some "query Size($folder: Folder) { size(folder: $folder) }"⟩

def quotaQuery : Operation :=
  ⟨none, .parsed .query, some "Quota", [⟨none, "owner", .named (some "Owner"), none, []⟩], [],
    [.field none "quota" [⟨"owner", .variable "owner", 36⟩] [] none 29],
    some "query Quota($owner: Owner) { quota(owner: $owner) }"⟩

def driveRun : Generator :=
  ⟨driveSchema, [⟨"drive.graphql", [.operation sizeQuery, .operation quotaQuery]⟩],
    { target := "python" }, .python, {}⟩

theorem namesApart_driveRun : NamesApart driveRun.resolver driveRun.schema :=
  namesApart_of_nodup (by decide)

/-- A folder needs its owner. -/
theorem needs_ownerInput : Needs driveSchema folderInput ownerInput :=
  ⟨_, List.mem_cons_of_mem _ List.mem_cons_self, rfl⟩

/-- An owner leads nowhere. -/
theorem eq_ownerInput_of_reaches {d : TypeDefinition} (h : Reaches driveSchema ownerInput d) :
    d = ownerInput := by
  rcases h.cases_head with heq | ⟨x, ⟨f, hf, hx⟩, -⟩
  · exact heq.symm
  · have hname : f.type = .named (some "String") := by
      simp only [ownerInput, inputType, TypeDefinition.inputFields, List.map_cons, List.map_nil,
        List.mem_singleton] at hf
      rw [hf]
    rw [hname] at hx
    cases hx

theorem not_reaches_ownerInput {d : TypeDefinition} (h : d.name ≠ "Owner") :
    ¬ Reaches driveSchema ownerInput d :=
  fun hreach => h (congrArg TypeDefinition.name (eq_ownerInput_of_reaches hreach))

theorem exists_build_driveRun : ∃ output log, driveRun.build = .ok (output, log) ∧
    output.operations.map (·.name) = ["querySize", "queryQuota"] :=
  exists_build_of_map (g := driveRun) (fun o => o.operations.map (·.name))
    (show _ = some ["querySize", "queryQuota"] by decide +kernel)

/-- The owner, who leads nowhere, is declared before the folder. -/
theorem hoisted_driveRun : ∃ output log, driveRun.build = .ok (output, log) ∧
    ∃ types before after, output.inputClasses = types.map (classOf driveRun.resolver) ∧
      types = before ++ folderInput :: after ∧ ownerInput ∈ before := by
  obtain ⟨output, log, hbuild, -⟩ := exists_build_driveRun
  obtain ⟨types, hclasses, hmem, -, -, -, hbefore, -⟩ := hoisted_of_build namesApart_driveRun hbuild
  have hfolder : folderInput ∈ types := by
    have hroot : ReachedFrom driveSchema [folderVariable] folderInput :=
      ⟨folderVariable, List.mem_singleton_self _, folderInput, rfl, .refl⟩
    exact (hmem folderInput).mpr ⟨⟨[], "drive.graphql", sizeQuery⟩, .head _, rfl, hroot⟩
  obtain ⟨before, after, hsplit⟩ := List.append_of_mem hfolder
  refine ⟨output, log, hbuild, types, before, after, hclasses, hsplit, ?_⟩
  exact hbefore before folderInput after hsplit ownerInput ownerInput needs_ownerInput
    (not_reaches_ownerInput (by decide)) .refl

/-- An entry leads to the owner of its folder, who does not lead back; still the class of the
entry stands first, although no two types share a name. -/
theorem entryInput_before_ownerInput_driveRun :
    Schema.build "" (documentOf driveSchema) = .ok driveRun.schema ∧
      NamesApart driveRun.resolver driveRun.schema ∧
      Reaches driveSchema entryInput ownerInput ∧ ¬ Reaches driveSchema ownerInput entryInput ∧
      ∃ output log, driveRun.build = .ok (output, log) ∧ output.inputClasses =
        [entryInput, ownerInput, folderInput].map (classOf driveRun.resolver) := by
  have hfolder : Needs driveSchema entryInput folderInput := ⟨_, List.mem_cons_self, rfl⟩
  obtain ⟨output, log, hbuild, -⟩ := exists_build_driveRun
  refine ⟨rfl, namesApart_driveRun, (Relation.ReflTransGen.single hfolder).tail needs_ownerInput,
    not_reaches_ownerInput (by decide), output, log, hbuild, ?_⟩
  rw [Output.inputClasses, flatMap_inputClasses_of_build hbuild]
  rfl

end OperationClasses.Generator
