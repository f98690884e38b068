import OperationClasses.Proofs.Generation.Closed
import OperationClasses.Proofs.Generation.Concatenation
import OperationClasses.Proofs.Response.Keys
import OperationClasses.Proofs.Schema.FieldNames

/-!
# Property names of a run

A class of the output has one property for each response key, input field or variable, and these
differ. With the default reserved words, so do the names of the properties in C#; in Python they do
unless two keys of the class are twins.
-/
namespace OperationClasses

open Syntax Response

namespace Input

variable {r : Resolver}

theorem propertyFor_property (r : Resolver) (provenance name : String) (t : TypeRef) :
    PropertyFor r name (property r provenance name t) := by
  unfold property
  split <;> exact ⟨_, _, _, rfl⟩

theorem forall₂_propertyFor_classOf (r : Resolver) (d : TypeDefinition) :
    List.Forall₂ (PropertyFor r) (d.inputFields.map (·.name)) (classOf r d).properties := by
  rw [classOf, ClassModel.flat, ClassModel.properties_mk, List.forall₂_map_right_iff,
    List.forall₂_map_left_iff]
  exact List.forall₂_same.mpr fun f _ => propertyFor_property r _ f.name f.type

theorem forall₂_propertyFor_request (r : Resolver) (vs : List VariableDefinition) :
    List.Forall₂ (PropertyFor r) (vs.map (·.name)) (request r vs).properties := by
  rw [request, ClassModel.flat, ClassModel.properties_mk, List.forall₂_map_right_iff,
    List.forall₂_map_left_iff]
  exact List.forall₂_same.mpr fun v _ => propertyFor_property r _ v.name v.type

/-- The classes of variables are those of types of the schema. -/
theorem exists_type_of_mem_expandVariables {s : Schema} {vs : List VariableDefinition}
    {c : ClassModel} (h : c ∈ (expandVariables r s vs {}).classes) :
    ∃ d ∈ s.types, c = classOf r d := by
  obtain ⟨types, hfinishes⟩ := exists_finishes_expandVariables r s vs
  have hstands : Stands r s [] types (expandVariables r s vs {}) := by
    simpa using hfinishes.stands
  rw [hstands.classes] at h
  obtain ⟨d, hd, rfl⟩ := List.mem_map.mp h
  exact ⟨d, List.mem_of_find?_eq_some (hstands.known d (by simpa using hd)), rfl⟩

end Input

namespace Generator

/-- Every operation of an output was built from one of the documents: its answer from the typed
fields, its request and its input classes from the variables. -/
theorem exists_task_of_build {g : Generator} {output : Output} {log : List LogEntry}
    (h : g.build = .ok (output, log)) {m : OperationModel} (hm : m ∈ output.operations) :
    ∃ t ∈ tasks (g.hooks.before g.documents),
      t.label? = some (m.documentPath, m.kind, m.operationName) ∧ ∃ l,
        Selection.merge? t.fragments [t.operation.selections] = some l ∧
        m.response = ofOperation g.resolver (l.annotate g.schema (rootName? g.schema m.kind)) ∧
        m.request = Input.request g.resolver t.operation.variables ∧
        m.inputClasses =
          (Input.expandVariables g.resolver g.schema t.operation.variables {}).classes := by
  obtain ⟨cs, hcs, rfl⟩ := exists_contributions_of_build h
  obtain ⟨c, hc, hcm⟩ := List.mem_filterMap.mp hm
  obtain ⟨t, ht, htc⟩ := exists_task_of_mem hcs hc
  have hlabel := label?_of_contribution htc
  rw [hcm, Option.map_some] at hlabel
  obtain ⟨kind, name, fields, _, source, -, -, hfields, -, -, -, rfl⟩ :=
    contribution_operation_iff.mp ⟨c, htc, hcm⟩
  obtain ⟨l, hl, rfl⟩ := exists_level_of_typedFields hfields
  exact ⟨t, ht, hlabel.symm, l, hl, rfl, rfl, rfl⟩

/-- Where there is one operation, its typed fields are those of the answer. -/
theorem response_of_onlyTask {g : Generator} {output : Output} {log : List LogEntry}
    (h : g.build = .ok (output, log)) {t : Task} (ht : tasks (g.hooks.before g.documents) = [t])
    {l : Selection.Level} (hl : Selection.merge? t.fragments [t.operation.selections] = some l)
    {m : OperationModel} (hm : m ∈ output.operations) :
    m.response = ofOperation g.resolver (l.annotate g.schema (rootName? g.schema m.kind)) := by
  obtain ⟨t', ht', -, l', hl', hresponse, -⟩ := exists_task_of_build h hm
  rw [ht, List.mem_singleton] at ht'
  obtain rfl : l' = l := Option.some.inj (hl'.symm.trans (ht' ▸ hl))
  exact hresponse

theorem isDefault_resolver {g : Generator} (htarget : IsBuiltIn g.target)
    (hwords : g.config.reservedWords? = none) : g.resolver.IsDefault where
  builtIn := htarget
  reserved := by simp [resolver, Config.reservedWords, hwords]

/-- With a built-in target and its reserved words, the properties of each class of an output stand
for different names, those of a request if its variables do; and they bear different names in C#
always, in Python exactly if no two of the names they stand for are twins. -/
theorem keepsApart_of_build {g : Generator} (htarget : IsBuiltIn g.target)
    (hwords : g.config.reservedWords? = none) {text : String} {doc : Document}
    (hschema : Schema.build text doc = .ok g.schema) {output : Output} {log : List LogEntry}
    (h : g.build = .ok (output, log)) :
    ∀ m ∈ output.operations,
      (∀ c, NestedIn m.response c ∨ c ∈ m.inputClasses →
        (c.properties.map (·.graphqlName)).Nodup ∧ KeepsApart g.target c) ∧
      ∃ t ∈ tasks (g.hooks.before g.documents),
        t.label? = some (m.documentPath, m.kind, m.operationName) ∧
        m.request.properties.map (·.graphqlName) = t.operation.variables.map (·.name) ∧
        ((t.operation.variables.map (·.name)).Nodup → KeepsApart g.target m.request) := by
  have hr := isDefault_resolver htarget hwords
  intro m hm
  obtain ⟨t, ht, hlabel, l, hl, hresponse, hrequest, hinputs⟩ := exists_task_of_build h hm
  have hvariables := Input.forall₂_propertyFor_request g.resolver t.operation.variables
  refine ⟨fun c hc => ?_, t, ht, hlabel, ?_, fun hnodup => ?_⟩
  · suffices hnames : ∃ names, List.Forall₂ (PropertyFor g.resolver) names c.properties ∧
        names.Nodup by
      obtain ⟨names, hfor, hnodup⟩ := hnames
      exact ⟨(map_graphqlName_of_propertiesFor hr hfor).symm ▸ hnodup,
        keepsApart_of_propertiesFor hr hfor hnodup⟩
    rcases hc with hc | hc
    · rw [hresponse] at hc
      obtain ⟨level, hlevel, hmembers⟩ := exists_levelIn_of_nestedIn hc (isOfLevel_classNamed ..)
      exact ⟨_, hmembers.forall₂_propertyFor, nodup_key_of_levelIn hl hlevel⟩
    · rw [hinputs] at hc
      obtain ⟨d, hd, rfl⟩ := Input.exists_type_of_mem_expandVariables hc
      exact ⟨_, Input.forall₂_propertyFor_classOf _ d,
        Schema.nodup_inputFields_of_build hschema d hd⟩
  · rw [hrequest]
    exact map_graphqlName_of_propertiesFor hr hvariables
  · rw [hrequest]
    exact keepsApart_of_propertiesFor hr hvariables hnodup

/-- Fields and input fields with names that Python spells with an underscore at the end. -/
def shelfSchema : Schema where
  roots? := none
  directives := []
  types := [⟨none, false, "Query", [], .object []
      [⟨none, "class", [plainInput "span" "Span"], .named (some "Int"), []⟩,
        ⟨none, "_id", [], .named (some "Int"), []⟩, ⟨none, "id", [], .named (some "Int"), []⟩]⟩,
    ⟨none, false, "Span", [], .input [plainInput "from" "Int", plainInput "to" "Int"]⟩]

def shelfQuery : Operation :=
  ⟨none, .parsed .query, some "Shelf", [⟨none, "from", .named (some "Span"), none, []⟩], [],
    [.field none "class" [⟨"span", .variable "from", 33⟩] [] none 27, Selection.plainField "_id" none,
      Selection.plainField "id" none],
    some "query Shelf($from: Span) { class(span: $from) _id id }"⟩

def shelfRun : Generator :=
  ⟨shelfSchema, [⟨"shelf.graphql", [.operation shelfQuery]⟩], { target := "python" }, .python, {}⟩

/-- The names that the classes of the run have properties for: of the answer, of the request and of
the input class. -/
def shelfNames : List (List String) := [["class", "_id", "id"], ["from"], ["from", "to"]]

theorem exists_build_shelfRun : ∃ output log m, shelfRun.build = .ok (output, log) ∧
    output.operations = [m] ∧ ∀ c ∈ m.response :: m.request :: m.inputClasses,
      c.properties.map (·.graphqlName) ∈ shelfNames := by
  obtain ⟨output, log, hbuild, hnames⟩ :=
    exists_build_of_map (g := shelfRun) (fun o => o.operations.map fun m =>
        (m.request :: m.inputClasses).map fun c => c.properties.map (·.graphqlName))
      (show _ = some [shelfNames.tail] by decide +kernel)
  obtain ⟨m, hm, hothers⟩ := List.map_eq_singleton_iff.mp hnames
  obtain ⟨l, hmerge, hkeys⟩ : ∃ l, Selection.merge? [] [shelfQuery.selections] = some l ∧
      ∀ s parent?, (l.annotate s parent?).map (·.key) = ["class", "_id", "id"] :=
    ⟨_, rfl, fun _ _ => rfl⟩
  have hresponse : m.response.properties.map (·.graphqlName) = ["class", "_id", "id"] := by
    rw [response_of_onlyTask hbuild rfl hmerge (by simp [hm])]
    exact (map_graphqlName_of_propertiesFor (isDefault_resolver (.inr rfl) rfl)
      (isOfLevel_classNamed _ _ _).forall₂_propertyFor).trans (hkeys _ _)
  refine ⟨output, log, m, hbuild, hm, List.forall_mem_cons.mpr ⟨?_, fun c hc => ?_⟩⟩
  · rw [hresponse]
    exact List.mem_cons_self
  · refine List.mem_of_mem_tail ?_
    rw [← hothers]
    exact List.mem_map_of_mem hc

theorem keepsApart_shelfRun : ∃ output log, shelfRun.build = .ok (output, log) ∧
    ∃ m, output.operations = [m] ∧ ∀ c ∈ m.response :: m.request :: m.inputClasses,
      (c.properties.map (·.name)).Nodup := by
  obtain ⟨output, log, m, hbuild, hm, hnames⟩ := exists_build_shelfRun
  have hschema : Schema.build "" (documentOf shelfSchema) = .ok shelfRun.schema := rfl
  obtain ⟨hclasses, t, ht, -, -, hrequest⟩ :=
    keepsApart_of_build (.inr rfl) rfl hschema hbuild m (by simp [hm])
  obtain rfl : t = ⟨[], "shelf.graphql", shelfQuery⟩ := List.mem_singleton.mp ht
  have hapart : ∀ names ∈ shelfNames, ∀ a ∈ names, ∀ b ∈ names, ¬ Twins a b := by
    decide +kernel
  refine ⟨output, log, hbuild, m, hm, fun c hc => ?_⟩
  have hkeeps : KeepsApart .python c := by
    rcases List.mem_cons.mp hc with rfl | hc
    · exact (hclasses _ (.inl (.itself _))).2
    · rcases List.mem_cons.mp hc with rfl | hc
      · exact hrequest (by decide)
      · exact (hclasses c (.inr hc)).2
  exact (hkeeps.python rfl).mpr fun p hp q hq =>
    hapart _ (hnames c hc) _ (List.mem_map_of_mem hp) _ (List.mem_map_of_mem hq)

/-- A keyword, and the name that Python gives it. -/
def classSchema : Schema where
  roots? := none
  directives := []
  types := [⟨none, false, "Query", [], .object []
    [⟨none, "class", [], .named (some "Int"), []⟩, ⟨none, "class_", [], .named (some "Int"), []⟩]⟩]

def classQuery : Operation :=
  ⟨none, .parsed .query, some "Q", [], [],
    [Selection.plainField "class" none, Selection.plainField "class_" none],
    some "query Q { class class_ }"⟩

def classRun : Generator :=
  ⟨classSchema, [⟨"class.graphql", [.operation classQuery]⟩], { target := "python" }, .python, {}⟩

/-- Two fields with different names become two properties of one name. -/
theorem not_nodup_classRun : Schema.build "" (documentOf classSchema) = .ok classRun.schema ∧
    ∃ output log, classRun.build = .ok (output, log) ∧ ∃ m ∈ output.operations,
      m.response.properties.map (·.graphqlName) = ["class", "class_"] ∧
        m.response.properties.map (·.name) = ["class_", "class_"] := by
  obtain ⟨output, log, hbuild, hnames⟩ :=
    exists_build_of_map (g := classRun) (fun o => o.operations.map (·.operationName))
      (show _ = some ["Q"] by decide +kernel)
  obtain ⟨m, hm, -⟩ := List.map_eq_singleton_iff.mp hnames
  have hmem : m ∈ output.operations := by simp [hm]
  obtain ⟨l, hmerge, hkeys⟩ : ∃ l, Selection.merge? [] [classQuery.selections] = some l ∧
      ∀ s parent?, (l.annotate s parent?).map (·.key) = ["class", "class_"] :=
    ⟨_, rfl, fun _ _ => rfl⟩
  have hfor := (isOfLevel_classNamed classRun.resolver className
    (l.annotate classSchema (rootName? classSchema m.kind))).forall₂_propertyFor
  refine ⟨rfl, output, log, hbuild, m, hmem, ?_, ?_⟩
  · rw [response_of_onlyTask hbuild rfl hmerge hmem]
    exact (map_graphqlName_of_propertiesFor (isDefault_resolver (.inr rfl) rfl) hfor).trans
      (hkeys _ _)
  · rw [response_of_onlyTask hbuild rfl hmerge hmem]
    have hspelled : ["class", "class_"].map classRun.resolver.escape = ["class_", "class_"] := by
      decide
    exact (map_name_of_propertiesFor hfor).trans ((congrArg _ (hkeys _ _)).trans hspelled)

end Generator

end OperationClasses
