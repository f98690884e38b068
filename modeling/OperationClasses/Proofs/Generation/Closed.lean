import OperationClasses.Proofs.Generation.Run
import OperationClasses.Proofs.Input.Identifiers
import OperationClasses.Proofs.Response.Identifiers

/-!
# Closed modules

A Python module defines what its annotations name. The words before brackets and the spellings of
scalars are built in or imported; enumerations and input classes are declared by the output of the
run, whichever operation or input type met them; and nested classes are found in the class that
holds the annotation. Types that describe schemas are the exception: an input field may have the
type `__TypeKind`, and its name is spelled, but no run declares it.
-/
namespace OperationClasses

open Syntax

theorem Output.mem_map_name_foldl_addClass {classes more : List ClassModel} {name : String} :
    name ∈ (more.foldl addClass classes).map (·.name) ↔
      name ∈ classes.map (·.name) ∨ name ∈ more.map (·.name) := by
  induction more generalizing classes with
  | nil => simp
  | cons c more ih =>
    have hstep : name ∈ (addClass classes c).map (·.name) ↔
        name ∈ classes.map (·.name) ∨ name = c.name := by
      unfold addClass
      by_cases hany : classes.any (·.name = c.name)
      · rw [if_pos hany]
        refine ⟨.inl, fun h => h.elim id ?_⟩
        rintro rfl
        obtain ⟨d, hd, hname⟩ := List.any_eq_true.mp hany
        exact List.mem_map.mpr ⟨d, hd, by simpa using hname⟩
      · rw [if_neg hany, List.map_append, List.mem_append, List.map_singleton, List.mem_singleton]
    rw [List.foldl_cons, ih, hstep, List.map_cons, List.mem_cons, or_assoc]

/-- Every input class of an operation is one of the output, under the same name. -/
theorem Output.name_mem_inputClasses {o : Output} {m : OperationModel} (hm : m ∈ o.operations)
    {c : ClassModel} (hc : c ∈ m.inputClasses) : c.name ∈ o.inputClasses.map (·.name) := by
  refine mem_map_name_foldl_addClass.mpr (.inr (List.mem_map_of_mem ?_))
  exact List.mem_flatMap.mpr ⟨m, hm, hc⟩

/-- Every identifier in an annotation is a word that every module knows or the name of an enumeration
of the output; or, in a request or an input class, the name of an input class of the output, and in
a class of an answer, that of a class nested right in it. -/
def Output.Closed (output : Output) : Prop :=
  ∀ m ∈ output.operations,
    (∀ c ∈ m.request :: m.inputClasses, ∀ d, Response.NestedIn c d → ∀ p ∈ d.properties,
      UsesOnly (fun word => word ∈ output.enums.map (·.name) ∨
        word ∈ output.inputClasses.map (·.name)) p.type) ∧
    ∀ d, Response.NestedIn m.response d → ∀ p ∈ d.properties,
      UsesOnly (fun word => word ∈ output.enums.map (·.name) ∨
        word ∈ d.classes.map (·.name)) p.type

theorem eq_of_nestedIn {c d : ClassModel} (hc : c.classes = []) (h : Response.NestedIn c d) :
    d = c := by
  cases h with
  | itself => rfl
  | inside hmem => simp [hc] at hmem

namespace Generator

theorem exists_contributions_of_build {g : Generator} {output : Output} {log : List LogEntry}
    (h : g.build = .ok (output, log)) :
    ∃ cs, contributions g.resolver g.schema (g.hooks.before g.documents) = .ok cs ∧
      output = (outputOf g.resolver g.schema cs).1 := by
  obtain ⟨-, cs, hcs, -, houtput⟩ := build_eq_ok_iff.mp h
  exact ⟨cs, hcs, (congrArg Prod.fst houtput).symm⟩

theorem exists_task_of_mem {r : Resolver} {s : Schema} {docs : List SourceDocument}
    {cs : List Contribution} (h : contributions r s docs = .ok cs) {c : Contribution}
    (hc : c ∈ cs) : ∃ t ∈ tasks docs, t.contribution r s = .ok c :=
  Selection.exists_mem_of_forall₂ (mapM_eq_ok_iff.mp h).flip hc

/-- An enumeration that an operation meets is one of the output. -/
theorem escape_mem_enums {r : Resolver} {s : Schema} {cs : List Contribution} {c : Contribution}
    (hc : c ∈ cs) (hnamed : c.operation?.isSome) {name : String} (hname : name ∈ c.enums)
    (henum : (s.enum? name).isSome) :
    r.escape name ∈ (outputOf r s cs).1.enums.map (·.name) := by
  obtain ⟨d, hd⟩ := Option.isSome_iff_exists.mp henum
  obtain rfl := s.name_of_find? hd
  have hmet : d.name ∈ namesMet cs := by
    refine mem_meetAll.mpr (.inr (List.mem_flatMap.mpr ⟨c, hc, ?_⟩))
    rwa [Contribution.spelled, if_pos hnamed]
  refine List.mem_map.mpr ⟨enumModel r d, List.mem_map_of_mem ?_, rfl⟩
  exact mem_enumerationsMet.mpr ⟨hmet, hd⟩

theorem exists_level_of_typedFields {s : Schema} {fragments : Fragments} {kind : OperationKind}
    {o : Operation} {fields : List TypedField} {log : List LogEntry}
    (h : typedFields s fragments kind o = .ok (fields, log)) :
    ∃ l, Selection.merge? fragments [o.selections] = some l ∧
      fields = l.annotate s (rootName? s kind) := by
  cases hl : Selection.merge? fragments [o.selections] with
  | none => simp [typedFields, typedSelections, hl, Except.map] at h
  | some l =>
    rw [typedFields_of_merge? hl] at h
    exact ⟨l, rfl, (congrArg Prod.fst (Except.ok.inj h)).symm⟩

/-- Fields are selected under names, variables have types of the schema or built-in scalars, and so
have the fields without selections whose types are known. -/
structure Task.Grounded (s : Schema) (t : Task) : Prop where
  named : Selection.Named t.fragments t.operation.selections
  inputs : ∀ v ∈ t.operation.variables, ∃ name, Input.RefersTo s v.type name
  leaves : ∀ kind fields log, kindOf t.operation = .ok kind →
    typedFields s t.fragments kind t.operation = .ok (fields, log) →
    ∀ f, Selection.Within fields f → Response.LeafTyped s f

/-- The input fields of a built schema refer to its own types, unless one refers to a type that
describes schemas. -/
theorem refersTo_of_build {text : String} {doc : Document} {s : Schema}
    (hs : Schema.build text doc = .ok s)
    (hinputs : ∀ d ∈ s.types, ∀ f ∈ d.inputFields, f.type.Written ∧
      ∀ name ∈ f.type.name?, name ∉ Schema.Standard.introspectionTypes.map (·.1)) :
    ∀ d ∈ s.types, ∀ f ∈ d.inputFields, ∃ name, Input.RefersTo s f.type name := by
  intro d hd f hf
  obtain ⟨hwritten, hplain⟩ := hinputs d hd f hf
  obtain ⟨name, hname, hknown⟩ :=
    Schema.isInputType_cases (Schema.isInputType_of_build hs d hd f hf)
  refine ⟨name, hwritten, hname, ?_⟩
  exact hknown.imp_right fun h => h.resolve_right (hplain name hname)

/-- With the overrides that come with Python, a run over operations whose types are those of the
schema has a closed output, if no input field refers to a type that describes schemas. -/
theorem closed_build {g : Generator} (hpython : g.target = .python)
    (hoverrides : g.config.typeOverrides? = none) {text : String} {doc : Document}
    (hschema : Schema.build text doc = .ok g.schema) (hwritten : g.schema.Written)
    (hinputs : ∀ d ∈ g.schema.types, ∀ f ∈ d.inputFields, f.type.Written ∧
      ∀ name ∈ f.type.name?, name ∉ Schema.Standard.introspectionTypes.map (·.1))
    (htasks : ∀ t ∈ tasks (g.hooks.before g.documents), t.Grounded g.schema)
    {output : Output} {log : List LogEntry} (h : g.build = .ok (output, log)) :
    output.Closed := by
  have hr : g.resolver.IsPython := by
    refine ⟨hpython, ?_⟩
    simp [resolver, Config.typeOverrides, hoverrides, hpython]
  have hfields := refersTo_of_build hschema hinputs
  obtain ⟨cs, hcs, rfl⟩ := exists_contributions_of_build h
  intro m hm
  obtain ⟨c, hc, hcm⟩ := List.mem_filterMap.mp hm
  obtain ⟨t, ht, htc⟩ := exists_task_of_mem hcs hc
  obtain ⟨kind, hkind, ⟨-, rfl⟩ | ⟨name, fields, log, source, -, hfields', -, -, -, rfl⟩⟩ :=
    contribution_eq_ok_iff.mp htc
  · cases hcm
  · obtain rfl : operationModel g.resolver g.schema t.path t.operation kind name source fields = m :=
      Option.some.inj hcm
    have hgrounded := htasks t ht
    obtain ⟨l, hl, rfl⟩ := exists_level_of_typedFields hfields'
    have henum : ∀ word, (∃ enum ∈ (namedContribution g.resolver g.schema t.path t.operation kind
        name source (l.annotate g.schema (rootName? g.schema kind)) log).enums,
          (g.schema.enum? enum).isSome ∧ word = g.resolver.escape enum) →
        word ∈ (outputOf g.resolver g.schema cs).1.enums.map (·.name) := by
      rintro _ ⟨enum, henum, hsome, rfl⟩
      exact escape_mem_enums hc rfl henum hsome
    constructor
    · intro c' hc' d hd p hp
      obtain ⟨hflat, huses⟩ :=
        Input.usesOnly_expandVariables hr rfl hfields hgrounded.inputs c' hc'
      rw [eq_of_nestedIn hflat hd] at hp
      refine (huses p hp).mono fun word hword => ?_
      rcases hword with ⟨enum, hmet, hrest⟩ | hclass
      · exact .inl (henum word ⟨enum, List.mem_append_right _ hmet, hrest⟩)
      · obtain ⟨found, hfound, rfl⟩ := List.mem_map.mp hclass
        exact .inr (Output.name_mem_inputClasses hm hfound)
    · intro d hd p hp
      refine (Response.usesOnly_of_nestedIn hr rfl Response.className
        (fun f hf => Response.founded_annotate hwritten hl hf)
        (fun f hf => Response.isName_key_of_within hl (by simpa using hgrounded.named) hf)
        (fun f hf => hgrounded.leaves kind _ log hkind hfields' f hf) hd p hp).mono ?_
      refine fun word hword => hword.imp_left fun ⟨f, hf, hleaf, t, htype, enum, hmet, hsome, heq⟩ =>
        henum word ⟨enum, ?_, hsome, heq⟩
      exact List.mem_append_left _ (Response.mem_enumsMetAll hf hleaf htype hmet)

/-- The document that a schema is read from. -/
def documentOf (s : Schema) : Document := s.types.map fun d => .typeSystem (.type d) none

def plainInput (name type : String) : InputValueDefinition :=
  ⟨none, name, .named (some type), none, []⟩

/-- A type with one field, which has one argument. -/
def oneArgument (name field type argument argumentType : String) : TypeDefinition :=
  ⟨none, false, name, [], .object []
    [⟨none, field, [plainInput argument argumentType], .named (some type), []⟩]⟩

/-- Films with a genre, and input for films that may have a sequel. -/
def filmSchema : Schema where
  roots? := none
  directives := []
  types := [oneArgument "Query" "rate" "Film" "film" "FilmInput",
    Response.oneField "Film" "genre" "Genre",
    ⟨none, false, "Genre", [], .enum [⟨none, "DRAMA", []⟩]⟩,
    ⟨none, false, "FilmInput", [], .input
      [plainInput "genre" "Genre", plainInput "sequel" "FilmInput"]⟩]

def filmQuery : Operation :=
  ⟨none, .parsed .query, some "Rate", [⟨none, "film", .named (some "FilmInput"), none, []⟩], [],
    [.field none "rate" [⟨"film", .variable "film", 36⟩] []
      (some [Selection.plainField "genre" none]) 31],
    some "query Rate($film: FilmInput) { rate(film: $film) { genre } }"⟩

def filmRun : Generator :=
  ⟨filmSchema, [⟨"films.graphql", [.operation filmQuery]⟩], { target := "python" }, .python, {}⟩

theorem written_filmSchema : filmSchema.Written := by
  intro d hd f hf
  simp only [filmSchema, List.mem_cons, List.not_mem_nil, or_false] at hd
  rcases hd with rfl | rfl | rfl | rfl <;>
    simp only [oneArgument, Response.oneField, TypeDefinition.fields, List.mem_singleton,
      List.not_mem_nil] at hf <;>
    exact hf ▸ .named (by decide)

theorem inputs_filmSchema : ∀ d ∈ filmSchema.types, ∀ f ∈ d.inputFields, f.type.Written ∧
    ∀ name ∈ f.type.name?, name ∉ Schema.Standard.introspectionTypes.map (·.1) := by
  intro d hd f hf
  simp only [filmSchema, List.mem_cons, List.not_mem_nil, or_false] at hd
  rcases hd with rfl | rfl | rfl | rfl <;>
    simp only [oneArgument, Response.oneField, TypeDefinition.inputFields, List.mem_cons,
      List.not_mem_nil, or_false] at hf
  rcases hf with rfl | rfl <;> exact ⟨.named (by decide), by decide⟩

theorem grounded_filmQuery :
    ∀ t ∈ tasks (filmRun.hooks.before filmRun.documents), t.Grounded filmSchema := by
  intro t ht
  obtain rfl : t = ⟨[], "films.graphql", filmQuery⟩ := List.mem_singleton.mp ht
  refine ⟨Selection.named_of_textKeys (by decide) (by decide), ?_, ?_⟩
  · intro v hv
    obtain rfl := List.mem_singleton.mp hv
    exact ⟨"FilmInput", .named (by decide), rfl, .inr rfl⟩
  · intro kind fields log hkind hfields f hf
    cases hkind
    have htyped : typedFields filmSchema [] .query filmQuery = .ok
        ([.object (.field _) "rate" (.ok (.named (some "Film")))
          [.leaf (.field _) "genre" (.ok (.named (some "Genre")))]], []) := rfl
    obtain ⟨rfl, -⟩ := Prod.mk.inj (Except.ok.inj (htyped.symm.trans hfields))
    intro hleaf u hu
    cases hf with
    | here hmem =>
      rw [List.mem_singleton.mp hmem] at hleaf
      cases hleaf
    | inside hmem hchildren hbelow =>
      rw [List.mem_singleton.mp hmem] at hchildren
      cases hchildren
      cases hbelow with
      | here hmem =>
        rw [List.mem_singleton.mp hmem] at hu
        cases hu
        exact ⟨"Genre", rfl, .inr (.inr rfl)⟩
      | inside hmem hchildren _ =>
        rw [List.mem_singleton.mp hmem] at hchildren
        cases hchildren

theorem closed_filmRun : ∃ output log, filmRun.build = .ok (output, log) ∧
    output.operations.map (·.name) = ["queryRate"] ∧ output.Closed := by
  have hbuilt : (filmRun.build.toOption.map fun built => built.1.operations.map (·.name)) =
      some ["queryRate"] := by
    decide +kernel
  cases h : filmRun.build with
  | error e => simp [h, Except.toOption] at hbuilt
  | ok built =>
    have hnames : built.1.operations.map (·.name) = ["queryRate"] := by
      simpa [h, Except.toOption] using hbuilt
    have hschema : Schema.build "" (documentOf filmSchema) = .ok filmRun.schema := rfl
    exact ⟨built.1, built.2, rfl, hnames, closed_build rfl rfl hschema written_filmSchema
      inputs_filmSchema grounded_filmQuery h⟩

def kindSchema : Schema where
  roots? := none
  directives := []
  types := [oneArgument "Query" "a" "Int" "i" "I",
    ⟨none, false, "I", [], .input [plainInput "k" "__TypeKind"]⟩]

def kindQuery : Operation :=
  ⟨none, .parsed .query, some "Q", [⟨none, "i", .named (some "I"), none, []⟩], [],
    [.field none "a" [⟨"i", .variable "i", 19⟩] [] none 17],
    some "query Q($i: I) { a(i: $i) }"⟩

def kindRun : Generator :=
  ⟨kindSchema, [⟨"kinds.graphql", [.operation kindQuery]⟩], { target := "python" }, .python, {}⟩

theorem grounded_kindQuery :
    ∀ t ∈ tasks (kindRun.hooks.before kindRun.documents), t.Grounded kindSchema := by
  intro t ht
  obtain rfl : t = ⟨[], "kinds.graphql", kindQuery⟩ := List.mem_singleton.mp ht
  refine ⟨Selection.named_of_textKeys (by decide) (by decide), ?_, ?_⟩
  · intro v hv
    obtain rfl := List.mem_singleton.mp hv
    exact ⟨"I", .named (by decide), rfl, .inr rfl⟩
  · intro kind fields log hkind hfields f hf
    cases hkind
    have htyped : typedFields kindSchema [] .query kindQuery = .ok
        ([.leaf (.field _) "a" (.ok (.named (some "Int")))], []) := rfl
    obtain ⟨rfl, -⟩ := Prod.mk.inj (Except.ok.inj (htyped.symm.trans hfields))
    intro _ u hu
    cases hf with
    | here hmem =>
      rw [List.mem_singleton.mp hmem] at hu
      cases hu
      exact ⟨"Int", rfl, .inl (by decide)⟩
    | inside hmem hchildren _ =>
      rw [List.mem_singleton.mp hmem] at hchildren
      cases hchildren

/-- The schema is built and the operation is fine, but the input class names an enumeration that
is not declared. -/
theorem not_closed_kindRun :
    Schema.build "" (documentOf kindSchema) = .ok kindRun.schema ∧
      (∀ t ∈ tasks (kindRun.hooks.before kindRun.documents), t.Grounded kindRun.schema) ∧
      ∃ output log, kindRun.build = .ok (output, log) ∧ ¬ output.Closed := by
  refine ⟨rfl, grounded_kindQuery, ?_⟩
  have hbuilt : (kindRun.build.toOption.map fun built =>
      (built.1.enums.map (·.name), built.1.inputClasses.map (·.name),
        built.1.operations.map fun m => m.inputClasses.map fun c => c.properties.map (·.type))) =
      some ([], ["I"], [[["Optional[TypeKind_]"]]]) := by
    decide +kernel
  cases h : kindRun.build with
  | error e => simp [h, Except.toOption] at hbuilt
  | ok built =>
    simp only [h, Except.toOption, Option.map_some, Option.some.injEq, Prod.mk.injEq,
      List.map_eq_singleton_iff] at hbuilt
    obtain ⟨henums, ⟨i, hi, hname⟩, m, hm, c, hc, p, hp, htype⟩ := hbuilt
    refine ⟨built.1, built.2, rfl, fun hclosed => ?_⟩
    have huses := (hclosed m (by simp [hm])).1 c (by simp [hc]) c (.itself c) p (by simp [hp])
    have hword : "TypeKind_" ∈ identifiers p.type := by
      rw [htype]
      decide
    rcases huses "TypeKind_" hword with hknown | henum | hinput
    · exact absurd hknown (by decide)
    · rw [henums] at henum
      cases henum
    · simp [hi, hname] at hinput

end Generator

end OperationClasses
