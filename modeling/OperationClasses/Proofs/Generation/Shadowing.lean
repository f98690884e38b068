import OperationClasses.Proofs.Generation.PropertyNames
import OperationClasses.Proofs.Naming.Readings

/-!
# Names that annotations read

A class body of Python binds the names of its properties and of the classes nested in it, and its
annotations look names up there first. Nested classes are given names that no property bears, but
neither of them avoids the words and enumerations that the annotations of leaves read.
-/
namespace OperationClasses

open Syntax Response

/-- No member of a class bears a name that the annotation of one of some properties reads. -/
def Unshadowed (leaves : List Property) (c : ClassModel) : Prop :=
  ∀ p ∈ leaves, ∀ word ∈ identifiers p.type,
    word ∉ c.properties.map (·.name) ∧ word ∉ c.classes.map (·.name)

variable {r : Resolver}

theorem escape_not_mem_map_name (hr : r.IsDefaultPython) {keys : List String} {ps : List Property}
    (h : List.Forall₂ (PropertyFor r) keys ps) (name : String) :
    r.escape name ∉ ps.map (·.name) ↔ ∀ key ∈ keys, key ≠ name ∧ ¬ Twins key name := by
  rw [map_name_of_propertiesFor h, List.mem_map, not_exists]
  refine forall_congr' fun key => ?_
  rw [not_and, escape_python_eq_iff hr.toIsDefault hr.target, not_or]

/-- The members of a class leave alone what an annotation reads. -/
theorem reads_past_iff (hr : r.IsDefaultPython) {c : ClassModel} {keys : List String}
    (hfor : List.Forall₂ (PropertyFor r) keys c.properties) {type : String} {names : List String}
    (hnames : ∀ word, word ∈ identifiers type ↔ ∃ name ∈ names, word = r.escape name) :
    (∀ word ∈ identifiers type,
        word ∉ c.properties.map (·.name) ∧ word ∉ c.classes.map (·.name)) ↔
      ∀ name ∈ names, (∀ key ∈ keys, key ≠ name ∧ ¬ Twins key name) ∧
        r.escape name ∉ c.classes.map (·.name) := by
  constructor
  · intro h name hname
    obtain ⟨hproperties, hclasses⟩ := h (r.escape name) ((hnames _).mpr ⟨name, hname, rfl⟩)
    exact ⟨(escape_not_mem_map_name hr hfor name).mp hproperties, hclasses⟩
  · intro h word hword
    obtain ⟨name, hname, rfl⟩ := (hnames word).mp hword
    obtain ⟨hkeys, hclasses⟩ := h name hname
    exact ⟨(escape_not_mem_map_name hr hfor name).mpr hkeys, hclasses⟩

namespace Response

/-- The properties of a class that stand for fields without selections. -/
def leafProperties (fields : List TypedField) (c : ClassModel) : List Property :=
  ((fields.zip c.properties).filter (·.1.children?.isNone)).map (·.2)

/-- The names that the annotation of a leaf reads. -/
def leafReads (r : Resolver) (type : Except Unresolved TypeRef) : List String :=
  match type with
  | .ok t => namesRead r t
  | .error _ => ["Any"]

theorem leafProperties_classNamed (r : Resolver) (name : String) (fields : List TypedField) :
    leafProperties fields (classNamed r name fields) =
      (fields.filter (·.children?.isNone)).map fun f => leafProperty r f.key f.type := by
  unfold leafProperties classNamed classOf
  generalize takenNames r name fields = used
  rw [ClassModel.properties_mk]
  induction fields generalizing used with
  | nil => rfl
  | cons f rest ih =>
    cases f with
    | leaf node key type =>
      rw [members]
      exact congrArg _ (ih used)
    | object node key type children =>
      rw [members]
      exact ih _

theorem mem_identifiers_leafProperty (hr : r.IsDefaultPython) {type : Except Unresolved TypeRef}
    (htype : ∀ t, type = .ok t → t.Written) (key : String) {word : String} :
    word ∈ identifiers (leafProperty r key type).type ↔
      ∃ name ∈ leafReads r type, word = r.escape name := by
  cases type with
  | error u =>
    have hany : r.escape "Any" = "Any" := escape_of_not_isMoved hr (by decide)
    have hread : identifiers "Any" = ["Any"] := by decide
    have hproperty : (leafProperty r key (.error u)).type = "Any" := by
      rw [leafProperty, untypedProperty, hr.target]
      rfl
    simp [leafReads, hproperty, hread, hany]
  | ok t =>
    exact mem_identifiers_spell hr (htype t rfl) (spell_leafProperty (htype t rfl) r key)

/-- Annotations read past the members of a class exactly if no response key of the class is what a
leaf reads, or a twin of it, and no class nested in it bears the name. -/
theorem unshadowed_classNamed (hr : r.IsDefaultPython) (name : String) {level : List TypedField}
    (hfounded : ∀ f ∈ level, Founded f) :
    Unshadowed (leafProperties level (classNamed r name level)) (classNamed r name level) ↔
      ∀ f ∈ level, f.children? = none → ∀ n ∈ leafReads r f.type,
        (∀ g ∈ level, g.key ≠ n ∧ ¬ Twins g.key n) ∧
          r.escape n ∉ (classNamed r name level).classes.map (·.name) := by
  have hfor := (isOfLevel_classNamed r name level).forall₂_propertyFor
  rw [Unshadowed, leafProperties_classNamed, List.forall_mem_map]
  refine forall_congr' fun f => ?_
  rw [List.mem_filter, and_imp, Option.isNone_iff_eq_none]
  refine forall_congr' fun hf => forall_congr' fun _ => ?_
  rw [reads_past_iff hr hfor fun word =>
    mem_identifiers_leafProperty hr (hfounded f hf).type f.key]
  simp only [List.forall_mem_map]

/-- A name is that of a field's type, perhaps with the field's words before it or a number behind
it. -/
def NamedAfter (r : Resolver) (f : TypedField) (name : String) : Prop :=
  name = baseName r f.key f.type ∨ name = Naming.pascalCase f.key ++ baseName r f.key f.type ∨
    ∃ n : ℕ, name = baseName r f.key f.type ++ toString n

theorem exists_namedAfter {name : String} {level : List TypedField}
    (hfounded : ∀ f ∈ level, Founded f) {c : ClassModel}
    (hc : c ∈ (classNamed r name level).classes) :
    ∃ f ∈ level, f.children?.isSome ∧ NamedAfter r f c.name := by
  obtain ⟨f, used, children, hmem, hchildren, rfl⟩ := exists_field_of_mem_members hfounded hc
  exact ⟨f, (List.of_mem_zip hmem).1, by simp [hchildren], freeName_cases r used f.key f.type⟩

end Response

namespace Input

theorem unshadowed_request (hr : r.IsDefaultPython) {vs : List VariableDefinition}
    (hwritten : ∀ v ∈ vs, v.type.Written) :
    Unshadowed (request r vs).properties (request r vs) ↔
      ∀ v ∈ vs, ∀ n ∈ namesRead r v.type, ∀ w ∈ vs, w.name ≠ n ∧ ¬ Twins w.name n := by
  have hproperties : (request r vs).properties =
      vs.map fun v => property r "variable" v.name v.type := rfl
  have hclasses : (request r vs).classes = [] := rfl
  have hreads : ∀ v ∈ vs, ∀ word, word ∈ identifiers (property r "variable" v.name v.type).type ↔
      ∃ n ∈ namesRead r v.type, word = r.escape n := fun v hv word =>
    mem_identifiers_spell hr (hwritten v hv) (spell_property (hwritten v hv) r "variable" v.name)
  rw [Unshadowed, hproperties, List.forall_mem_map, ← hproperties]
  refine forall₂_congr fun v hv => ?_
  rw [reads_past_iff hr (forall₂_propertyFor_request r vs) (hreads v hv), hclasses]
  simp

end Input

namespace Generator

theorem isDefaultPython_resolver {g : Generator} (hpython : g.target = .python)
    (hoverrides : g.config.typeOverrides? = none) (hwords : g.config.reservedWords? = none) :
    g.resolver.IsDefaultPython := by
  refine ⟨⟨hpython, ?_⟩, isDefault_resolver (.inr hpython) hwords⟩
  simp [resolver, Config.typeOverrides, hoverrides, hpython]

/-- In a run for Python with all that comes with it, the classes of an answer are those of the
levels of its typed fields. In such a class no annotation of a leaf reads a name that the class
binds exactly if no response key is a name that the leaf's type is spelled with, or a twin of one,
and no nested class bears it; nested classes bear the name of a field's type, with the field's words
in front or a number behind. In a request, the variables are the keys. -/
theorem unshadowed_iff_of_build {g : Generator} (hpython : g.target = .python)
    (hoverrides : g.config.typeOverrides? = none) (hwords : g.config.reservedWords? = none)
    (hwritten : g.schema.Written)
    (hvariables : ∀ t ∈ tasks (g.hooks.before g.documents),
      ∀ v ∈ t.operation.variables, v.type.Written)
    {output : Output} {log : List LogEntry} (h : g.build = .ok (output, log)) :
    ∀ m ∈ output.operations, ∃ t ∈ tasks (g.hooks.before g.documents),
      t.label? = some (m.documentPath, m.kind, m.operationName) ∧
      m.request = Input.request g.resolver t.operation.variables ∧
      ∃ fields notes, typedFields g.schema t.fragments m.kind t.operation = .ok (fields, notes) ∧
        m.response = ofOperation g.resolver fields ∧
        (∀ d, NestedIn m.response d →
          ∃ level, LevelIn fields level ∧ d = classNamed g.resolver d.name level) ∧
        (∀ d level, LevelIn fields level → d = classNamed g.resolver d.name level →
          (Unshadowed (leafProperties level d) d ↔
            ∀ f ∈ level, f.children? = none → ∀ n ∈ leafReads g.resolver f.type,
              (∀ k ∈ level, k.key ≠ n ∧ ¬ Twins k.key n) ∧
                g.resolver.escape n ∉ d.classes.map (·.name)) ∧
          ∀ c ∈ d.classes, ∃ f ∈ level, f.children?.isSome ∧
            NamedAfter g.resolver f c.name) ∧
        (Unshadowed m.request.properties m.request ↔
          ∀ v ∈ t.operation.variables, ∀ n ∈ namesRead g.resolver v.type,
            ∀ w ∈ t.operation.variables, w.name ≠ n ∧ ¬ Twins w.name n) := by
  have hr := isDefaultPython_resolver hpython hoverrides hwords
  intro m hm
  obtain ⟨t, ht, hlabel, l, hl, hresponse, hrequest, -⟩ := exists_task_of_build h hm
  have hfounded : ∀ f, Selection.Within (l.annotate g.schema (rootName? g.schema m.kind)) f →
      Founded f := fun f hf => founded_annotate hwritten hl hf
  refine ⟨t, ht, hlabel, hrequest, _, _, typedFields_of_merge? hl m.kind, hresponse,
    fun d hd => ?_, fun d level hlevel hd => ?_, ?_⟩
  · obtain ⟨level, hlevel, heq, -⟩ := exists_level_of_nestedIn hd hresponse hfounded
    exact ⟨level, hlevel, heq⟩
  · have hbelow : ∀ f ∈ level, Founded f :=
      fun f hf => hfounded f (within_of_levelIn hlevel (.here hf))
    rw [hd]
    exact ⟨unshadowed_classNamed hr d.name hbelow, fun c hc => exists_namedAfter hbelow hc⟩
  · rw [hrequest]
    exact Input.unshadowed_request hr (hvariables t ht)

/-- Days are spelled as dates, which is also what a field is called. -/
def eventSchema : Schema where
  roots? := none
  directives := []
  types := [⟨none, false, "Query", [], .object []
      [⟨none, "date", [], .named (some "AWSDate"), []⟩,
        ⟨none, "event", [plainInput "at" "AWSDate"], .named (some "Event"), []⟩]⟩,
    oneField "Event" "day" "AWSDate", ⟨none, false, "AWSDate", [], .scalar⟩]

def eventQuery : Operation :=
  ⟨none, .parsed .query, some "Days", [⟨none, "at", .named (some "AWSDate"), none, []⟩], [],
    [.field (some "day") "date" [] [] none 27,
      .field none "event" [⟨"at", .variable "at", 43⟩] [] (some [Selection.plainField "day" none])
        37],
    some "query Days($at: AWSDate) { day: date event(at: $at) { day } }"⟩

def dateQuery : Operation :=
  ⟨none, .parsed .query, some "Today", [], [], [Selection.plainField "date" none],
    some "query Today { date }"⟩

def eventRun (o : Operation) : Generator :=
  ⟨eventSchema, [⟨"events.graphql", [.operation o]⟩], { target := "python" }, .python, {}⟩

def eventFields : List TypedField :=
  [.leaf (.field ⟨some "day", "date", [], [], none, 27⟩) "day" (.ok (.named (some "AWSDate"))),
    .object (.field ⟨none, "event", [⟨"at", .variable "at", 43⟩], [],
        some [Selection.plainField "day" none], 37⟩) "event" (.ok (.named (some "Event")))
      [.leaf (.field ⟨none, "day", [], [], none, 0⟩) "day" (.ok (.named (some "AWSDate")))]]

theorem written_eventSchema : eventSchema.Written := by
  intro d hd f hf
  simp only [eventSchema, List.mem_cons, List.not_mem_nil, or_false] at hd
  rcases hd with rfl | rfl | rfl <;>
    simp only [oneField, TypeDefinition.fields, List.mem_cons, List.not_mem_nil, or_false] at hf
  · rcases hf with rfl | rfl <;> exact .named (by decide)
  · exact hf ▸ .named (by decide)

theorem exists_build_eventRun : ∃ output log m, (eventRun eventQuery).build = .ok (output, log) ∧
    output.operations = [m] ∧ m.kind = .query ∧
    m.response = ofOperation (eventRun eventQuery).resolver eventFields := by
  obtain ⟨output, log, hbuild, hkinds⟩ :=
    exists_build_of_map (g := eventRun eventQuery) (fun o => o.operations.map (·.kind))
      (show _ = some [.query] by decide +kernel)
  obtain ⟨m, hm, hkind⟩ := List.map_eq_singleton_iff.mp hkinds
  obtain ⟨l, hmerge, hfields⟩ : ∃ l, Selection.merge? [] [eventQuery.selections] = some l ∧
      l.annotate eventSchema (some "Query") = eventFields :=
    ⟨_, rfl, rfl⟩
  refine ⟨output, log, m, hbuild, hm, hkind, ?_⟩
  rw [response_of_onlyTask hbuild rfl hmerge (by simp [hm]), hkind, ← hfields]
  rfl

theorem map_name_classes_eventFields :
    (ofOperation (eventRun eventQuery).resolver eventFields).classes.map (·.name) = ["Event"] := by
  have hfree : freeName (eventRun eventQuery).resolver
      (takenNames (eventRun eventQuery).resolver className eventFields) "event"
      (.ok (.named (some "Event"))) = "Event" := by
    decide
  rw [ofOperation, classNamed]
  generalize takenNames (eventRun eventQuery).resolver className eventFields = used at hfree
  simp [eventFields, members, classOf, nestedName, hfree, Node.kind]

theorem unshadowed_eventRun : ∃ output log, (eventRun eventQuery).build = .ok (output, log) ∧
    ∃ m ∈ output.operations, m.response = ofOperation (eventRun eventQuery).resolver eventFields ∧
      Unshadowed (leafProperties eventFields m.response) m.response ∧
      Unshadowed m.request.properties m.request := by
  obtain ⟨output, log, m, hbuild, hm, hkind, hresponse⟩ := exists_build_eventRun
  have hmem : m ∈ output.operations := by simp [hm]
  have hvariables : ∀ t ∈ tasks ((eventRun eventQuery).hooks.before (eventRun eventQuery).documents),
      ∀ v ∈ t.operation.variables, v.type.Written := by
    intro t ht v hv
    obtain rfl : t = ⟨[], "events.graphql", eventQuery⟩ := List.mem_singleton.mp ht
    rw [List.mem_singleton.mp hv]
    exact .named (by decide)
  obtain ⟨t, ht, -, -, fields, notes, hfields, -, -, hclasses, hrequest⟩ :=
    unshadowed_iff_of_build rfl rfl rfl written_eventSchema hvariables hbuild m hmem
  obtain rfl : t = ⟨[], "events.graphql", eventQuery⟩ := List.mem_singleton.mp ht
  have htyped : typedFields eventSchema [] .query eventQuery = .ok (eventFields, []) := rfl
  obtain ⟨rfl, -⟩ := Prod.mk.inj (Except.ok.inj (htyped.symm.trans (hkind ▸ hfields)))
  refine ⟨output, log, hbuild, m, hmem, hresponse, ?_, ?_⟩
  · rw [(hclasses m.response eventFields (.itself _) (by rw [hresponse]; rfl)).1, hresponse,
      map_name_classes_eventFields]
    decide +kernel
  · rw [hrequest]
    decide +kernel

/-- A field is called what its own annotation reads. -/
theorem shadowed_dateQuery :
    Schema.build "" (documentOf eventSchema) = .ok (eventRun dateQuery).schema ∧
      ∃ output log, (eventRun dateQuery).build = .ok (output, log) ∧ ∃ m ∈ output.operations,
        m.response.properties = [⟨"date", "Optional[date]", "date", false, none⟩] ∧
          m.response.classes = [] ∧ ¬ Unshadowed m.response.properties m.response := by
  obtain ⟨output, log, hbuild, hkinds⟩ :=
    exists_build_of_map (g := eventRun dateQuery) (fun o => o.operations.map (·.kind))
      (show _ = some [.query] by decide +kernel)
  obtain ⟨m, hm, hkind⟩ := List.map_eq_singleton_iff.mp hkinds
  have hmem : m ∈ output.operations := by simp [hm]
  obtain ⟨l, hmerge, hfields⟩ : ∃ l, Selection.merge? [] [dateQuery.selections] = some l ∧
      l.annotate eventSchema (some "Query") =
        [.leaf (.field ⟨none, "date", [], [], none, 0⟩) "date" (.ok (.named (some "AWSDate")))] :=
    ⟨_, rfl, rfl⟩
  have hresponse : m.response = ofOperation (eventRun dateQuery).resolver
      [.leaf (.field ⟨none, "date", [], [], none, 0⟩) "date"
        (.ok (.named (some "AWSDate")))] := by
    rw [response_of_onlyTask hbuild rfl hmerge hmem, hkind, ← hfields]
    rfl
  have hproperty : leafProperty (eventRun dateQuery).resolver "date"
      (.ok (.named (some "AWSDate"))) = ⟨"date", "Optional[date]", "date", false, none⟩ := by
    decide
  have hproperties : m.response.properties = [⟨"date", "Optional[date]", "date", false, none⟩] := by
    simp [hresponse, ofOperation, classNamed, members, classOf, hproperty]
  have hclasses : m.response.classes = [] := by
    simp [hresponse, ofOperation, classNamed, members, classOf]
  refine ⟨rfl, output, log, hbuild, m, hmem, hproperties, hclasses, fun h => ?_⟩
  have hread : "date" ∈ identifiers "Optional[date]" := by decide
  rw [hproperties] at h
  exact (h _ List.mem_cons_self "date" hread).1 (by simp [hproperties])

end Generator

end OperationClasses
