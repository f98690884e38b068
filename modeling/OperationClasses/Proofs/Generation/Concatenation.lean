import OperationClasses.Proofs.Generation.Run
import OperationClasses.Proofs.Response.Heart

/-!
# Runs over documents put together

A run over two lists of documents does what the runs over each of them do, one after the other.
What is shared by all operations of a run, the enumerations that were met, decides only which
enumerations of the second list are new.
-/
namespace OperationClasses.Generator

open Syntax

/-- The same run over other documents. -/
def on (g : Generator) (docs : List SourceDocument) : Generator := { g with documents := docs }

@[simp] theorem schema_on (g : Generator) (docs) : (g.on docs).schema = g.schema := rfl

@[simp] theorem documents_on (g : Generator) (docs) : (g.on docs).documents = docs := rfl

@[simp] theorem hooks_on (g : Generator) (docs) : (g.on docs).hooks = g.hooks := rfl

@[simp] theorem resolver_on (g : Generator) (docs) : (g.on docs).resolver = g.resolver := rfl

/-- The kind of an operation, when it is none of the three. -/
def Task.unknownKind? (t : Task) : Option Json :=
  match t.operation.kind with
  | .parsed _ => none
  | .given value => if t.operation.kind.kind?.isSome then none else some value

/-- The first kind of an operation that is none of the three. -/
def unknownKind? (docs : List SourceDocument) : Option Json :=
  (tasks docs).findSome? Task.unknownKind?

/-- The selections of an operation end, the types of its variables can be read, and it has a text
if its kind is one of the three. -/
structure Task.Buildable (t : Task) : Prop where
  ends : (Selection.merge? t.fragments [t.operation.selections]).isSome
  readable : Input.stop? t.operation.variables = none
  printable : t.unknownKind? = none → t.operation.textFault? = none

/-- Where an operation stands, its kind and its name; an anonymous operation has none. -/
def Task.label? (t : Task) : Option (String × OperationKind × String) :=
  t.operation.name?.bind fun name => t.operation.kind.kind?.map (t.path, ·, name)

theorem kindOf_of_unknownKind {t : Task} {value : Json} (h : t.unknownKind? = some value) :
    kindOf t.operation = .error (.unknownKind value) := by
  unfold Task.unknownKind? at h
  cases hkind : t.operation.kind with
  | parsed kind => simp [hkind] at h
  | given v =>
    simp only [hkind] at h
    split at h
    · cases h
    · next hnone =>
      obtain rfl := Option.some.inj h
      simp [kindOf, hkind, Option.not_isSome_iff_eq_none.mp hnone]

theorem exists_kindOf {t : Task} (h : t.unknownKind? = none) :
    ∃ kind, kindOf t.operation = .ok kind := by
  simp only [kindOf_eq_ok_iff]
  unfold Task.unknownKind? at h
  cases hkind : t.operation.kind with
  | parsed kind => exact ⟨kind, rfl⟩
  | given v =>
    simp only [hkind, ite_eq_left_iff, reduceCtorEq, imp_false, not_not] at h
    exact Option.isSome_iff_exists.mp h

/-- When every name can be escaped, an operation can only fail by its kind. -/
theorem faultOf_contribution {r : Resolver} (hescape : ∀ name, r.escapeFault? name = none)
    (s : Schema) {t : Task} (ht : t.Buildable) :
    faultOf (t.contribution r s) = t.unknownKind?.map .unknownKind := by
  cases hunknown : t.unknownKind? with
  | some value =>
    rw [Option.map_some, faultOf_eq_some, Task.contribution, contribution,
      kindOf_of_unknownKind hunknown]
    rfl
  | none =>
    rw [Option.map_none, faultOf_eq_none]
    obtain ⟨kind, hkind⟩ := exists_kindOf hunknown
    cases hname : t.operation.name? with
    | none => exact ⟨_, contribution_eq_ok_iff.mpr ⟨kind, hkind, .inl ⟨hname, rfl⟩⟩⟩
    | some name =>
      obtain ⟨l, hl⟩ := Option.isSome_iff_exists.mp ht.ends
      have hspelled : ∀ names, requireSpelled r names = .ok () := fun names =>
        requireSpelled_eq_ok.mpr fun name _ => hescape name
      have hfields := typedFields_of_merge? (s := s) hl kind
      have hpayload := payload_of_textFault? (ht.printable hunknown) t.fragments
      have hinputs : requireInputs r s t.operation.variables = .ok () :=
        requireInputs_eq_ok.mpr ⟨ht.readable, hspelled _⟩
      exact ⟨_, contribution_eq_ok_iff.mpr ⟨kind, hkind, .inr ⟨name, _, _, _, hname, hfields,
        hspelled _, hinputs, hpayload, rfl⟩⟩⟩

theorem label?_of_contribution {r : Resolver} {s : Schema} {t : Task} {c : Contribution}
    (h : t.contribution r s = .ok c) :
    c.operation?.map (fun m => (m.documentPath, m.kind, m.operationName)) = t.label? := by
  obtain ⟨kind, hkind, ⟨hname, rfl⟩ | ⟨name, _, _, _, hname, -, -, -, -, rfl⟩⟩ :=
    contribution_eq_ok_iff.mp h
  · simp [Task.label?, hname]
  · simp [Task.label?, hname, kindOf_eq_ok_iff.mp hkind, namedContribution, operationModel]

theorem namesMet_append (cs cs' : List Contribution) :
    namesMet (cs ++ cs') = namesMet cs ++ (namesMet cs').filter (· ∉ namesMet cs) := by
  have happend : namesMet (cs ++ cs') =
      meetAll (namesMet cs) (cs'.flatMap Contribution.spelled) := by
    rw [namesMet, List.flatMap_append, meetAll, List.foldl_append]
    rfl
  rw [happend, meetAll_eq]
  rfl

theorem nodup_enumerationsMet (s : Schema) (cs : List Contribution) :
    ((enumerationsMet s cs).map (·.name)).Nodup := by
  rw [enumerationsMet, List.map_filterMap]
  refine (nodup_meetAll List.nodup_nil _).filterMap fun name name' shared h h' => ?_
  simp only [Option.mem_def, Option.map_eq_some_iff] at h h'
  obtain ⟨d, hd, rfl⟩ := h
  obtain ⟨d', hd', hname⟩ := h'
  rw [← s.name_of_find? hd, ← s.name_of_find? hd', hname]

/-- The enumerations of contributions put together: those of the first, then those of the others
whose names are new. -/
theorem enumerationsMet_append (s : Schema) (cs cs' : List Contribution) :
    enumerationsMet s (cs ++ cs') = enumerationsMet s cs ++
      (enumerationsMet s cs').filter fun d => d.name ∉ (enumerationsMet s cs).map (·.name) := by
  have hmem : ∀ d, s.enum? d.name = some d →
      (d.name ∈ (enumerationsMet s cs).map (·.name) ↔ d.name ∈ namesMet cs) := by
    intro d hd
    refine ⟨fun h => ?_, fun h => List.mem_map_of_mem (mem_enumerationsMet.mpr ⟨h, hd⟩)⟩
    obtain ⟨d', hd', hname⟩ := List.mem_map.mp h
    exact hname ▸ (mem_enumerationsMet.mp hd').1
  have hsplit : enumerationsMet s (cs ++ cs') = enumerationsMet s cs ++
      ((namesMet cs').filter (· ∉ namesMet cs)).filterMap s.enum? := by
    rw [enumerationsMet, namesMet_append, List.filterMap_append]
    rfl
  have hnames : enumerationsMet s cs' = (namesMet cs').filterMap s.enum? := rfl
  rw [hsplit, hnames, List.filterMap_filter, List.filter_filterMap]
  refine congrArg _ (List.filterMap_congr fun name _ => ?_)
  cases hd : s.enum? name with
  | none => simp
  | some d =>
    obtain rfl := s.name_of_find? hd
    simp only [Option.filter_some, hmem d hd]

variable {g : Generator}

/-- When every name can be escaped, a run over documents comes to what their operations
contribute. -/
theorem build_on (hfilters : g.hooks.filters = [])
    (hescape : ∀ name, g.resolver.escapeFault? name = none) (hs : g.schema.textFault? = none)
    (docs : List SourceDocument) :
    (g.on docs).build =
      (contributions g.resolver g.schema docs).map (outputOf g.resolver g.schema) := by
  have hbefore : g.hooks.before docs = docs := by rw [Hooks.before, hfilters, List.foldl_nil]
  have hspelled : ∀ names, requireSpelled g.resolver names = .ok () := fun names =>
    requireSpelled_eq_ok.mpr fun name _ => hescape name
  rw [build_eq, schema_on, hs, hooks_on, documents_on, hbefore]
  cases hcs : contributions g.resolver g.schema docs with
  | error e => simp [hcs, bind, Except.bind, Except.map]
  | ok cs => simp [hcs, bind, Except.bind, hspelled, Except.map, pure, Except.pure]

/-- The contributions of documents fail with the first kind that is none of the three. -/
theorem contributions_eq_error_iff {r : Resolver} (hescape : ∀ name, r.escapeFault? name = none)
    (s : Schema) {docs : List SourceDocument} (hdocs : ∀ t ∈ tasks docs, t.Buildable)
    {e : GenerationError} :
    contributions r s docs = .error e ↔ ∃ value, unknownKind? docs = some value ∧
      e = .unknownKind value := by
  have hfirst : (tasks docs).findSome? (fun t => t.unknownKind?.map GenerationError.unknownKind) =
      (unknownKind? docs).map .unknownKind := List.map_findSome?.symm
  rw [contributions, mapM_eq_error_iff fun t ht => faultOf_contribution hescape s (hdocs t ht),
    hfirst, Option.map_eq_some_iff]
  simp only [eq_comm]

/-- A run over documents fails with the first kind that is none of the three, and with nothing
else. -/
theorem build_eq_error_iff (hfilters : g.hooks.filters = [])
    (hescape : ∀ name, g.resolver.escapeFault? name = none) (hs : g.schema.textFault? = none)
    {docs : List SourceDocument} (hdocs : ∀ t ∈ tasks docs, t.Buildable) {e : GenerationError} :
    (g.on docs).build = .error e ↔ ∃ value, unknownKind? docs = some value ∧
      e = .unknownKind value := by
  rw [build_on hfilters hescape hs, ← contributions_eq_error_iff hescape g.schema hdocs]
  cases contributions g.resolver g.schema docs <;> simp [Except.map]

theorem unknownKind?_append (docs docs' : List SourceDocument) :
    unknownKind? (docs ++ docs') = (unknownKind? docs).or (unknownKind? docs') := by
  rw [unknownKind?, tasks_append, List.findSome?_append]
  rfl

theorem map_label_operations {r : Resolver} {s : Schema} {docs : List SourceDocument}
    {cs : List Contribution} (h : contributions r s docs = .ok cs) :
    (cs.filterMap (·.operation?)).map (fun m => (m.documentPath, m.kind, m.operationName)) =
      (tasks docs).filterMap Task.label? := by
  rw [contributions, mapM_eq_ok_iff] at h
  generalize tasks docs = ts at h ⊢
  induction h with
  | nil => rfl
  | @cons t c ts cs hc _ ih =>
    rw [List.filterMap_cons, List.filterMap_cons, ← label?_of_contribution hc]
    cases c.operation? with
    | none => exact ih
    | some m => exact congrArg _ ih

/-- The enumerations of the schema that the operations of documents meet. -/
def enumerationsOf (g : Generator) (docs : List SourceDocument) :
    Except GenerationError (List TypeDefinition) :=
  (contributions g.resolver g.schema docs).map (enumerationsMet g.schema)

/-- The output of a run over documents put together: the operations of both runs, and of the
enumerations of the second run those whose names the first run has not met. -/
structure Concatenates (g : Generator) (docs docs' : List SourceDocument)
    (o o' both : Output) : Prop where
  operations : both.operations = o.operations ++ o'.operations
  enums : ∃ met met' : List TypeDefinition,
    g.enumerationsOf docs = .ok met ∧ g.enumerationsOf docs' = .ok met' ∧
    (∀ d ∈ met ++ met', g.schema.enum? d.name = some d) ∧
    (met.map (·.name)).Nodup ∧ (met'.map (·.name)).Nodup ∧
    o.enums = met.map (enumModel g.resolver) ∧ o'.enums = met'.map (enumModel g.resolver) ∧
    both.enums = (met ++ met'.filter fun d => d.name ∉ met.map (·.name)).map
      (enumModel g.resolver)

theorem concatenates_outputOf {docs docs' : List SourceDocument} {cs cs' : List Contribution}
    (h : contributions g.resolver g.schema docs = .ok cs)
    (h' : contributions g.resolver g.schema docs' = .ok cs') :
    Concatenates g docs docs' (outputOf g.resolver g.schema cs).1
      (outputOf g.resolver g.schema cs').1 (outputOf g.resolver g.schema (cs ++ cs')).1 where
  operations := List.filterMap_append
  enums := by
    refine ⟨enumerationsMet g.schema cs, enumerationsMet g.schema cs', by rw [enumerationsOf, h]; rfl,
      by rw [enumerationsOf, h']; rfl, fun d hd => ?_, nodup_enumerationsMet g.schema cs,
      nodup_enumerationsMet g.schema cs', rfl, rfl,
      congrArg _ (enumerationsMet_append g.schema cs cs')⟩
    rcases List.mem_append.mp hd with hd | hd
    · exact (mem_enumerationsMet.mp hd).2
    · exact (mem_enumerationsMet.mp hd).2

/-- Runs over two lists of documents and the run over both of them. When the schema cannot be used,
all of them fail for this reason. Else the run over both fails exactly when one of the two fails,
with the first kind of an operation that is none of the three, anonymous operations included. And
when no kind is, all of them succeed: the operations are those of the two runs, one for each named
operation, and the enumerations those of the first run and then those of the second that the first
has not met. -/
theorem build_concatenates {docs docs' : List SourceDocument} (hfilters : g.hooks.filters = [])
    (hescape : ∀ name, g.resolver.escapeFault? name = none)
    (hdocs : ∀ t ∈ tasks (docs ++ docs'), t.Buildable) :
    (∀ fault, g.schema.textFault? = some fault →
      ∀ ds, (g.on ds).build = .error (.schema fault)) ∧
    (g.schema.textFault? = none →
      (∀ value, (g.on (docs ++ docs')).build = .error (.unknownKind value) ↔
        (tasks (docs ++ docs')).findSome? Task.unknownKind? = some value) ∧
      ((∃ value, (g.on (docs ++ docs')).build = .error (.unknownKind value)) ↔
        (∃ value, (g.on docs).build = .error (.unknownKind value)) ∨
          ∃ value, (g.on docs').build = .error (.unknownKind value)) ∧
      ((∀ value, (g.on (docs ++ docs')).build ≠ .error (.unknownKind value)) →
        ∃ o o' both log log' log'',
          (g.on docs).build = .ok (o, log) ∧ (g.on docs').build = .ok (o', log') ∧
          (g.on (docs ++ docs')).build = .ok (both, log'') ∧
          Concatenates g docs docs' o o' both ∧
          both.operations.map (fun m => (m.documentPath, m.kind, m.operationName)) =
            (tasks (docs ++ docs')).filterMap Task.label?)) := by
  refine ⟨fun fault hfault ds => ?_, fun hs => ?_⟩
  · exact build_of_textFault hfault
  · have hfirst : ∀ t ∈ tasks docs, t.Buildable := fun t ht =>
      hdocs t (tasks_append docs docs' ▸ List.mem_append_left _ ht)
    have hsecond : ∀ t ∈ tasks docs', t.Buildable := fun t ht =>
      hdocs t (tasks_append docs docs' ▸ List.mem_append_right _ ht)
    have hfails : ∀ ds, (∀ t ∈ tasks ds, t.Buildable) → ∀ value,
        (g.on ds).build = .error (.unknownKind value) ↔ unknownKind? ds = some value := by
      intro ds hds value
      rw [build_eq_error_iff hfilters hescape hs hds]
      simp [eq_comm]
    refine ⟨hfails _ hdocs, ?_, fun hnone => ?_⟩
    · simp only [hfails _ hdocs, hfails _ hfirst, hfails _ hsecond, ← Option.isSome_iff_exists,
        unknownKind?_append, Option.isSome_or, Bool.or_eq_true]
    · simp only [build_on hfilters hescape hs] at hnone ⊢
      cases hcs : contributions g.resolver g.schema (docs ++ docs') with
      | error e =>
        obtain ⟨value, -, rfl⟩ := (contributions_eq_error_iff hescape g.schema hdocs).mp hcs
        exact absurd (by rw [hcs]; rfl) (hnone value)
      | ok both =>
        have hlabels := map_label_operations hcs
        rw [contributions_append, bind_eq_ok] at hcs
        obtain ⟨cs, hcs, hrest⟩ := hcs
        obtain ⟨cs', hcs', hboth⟩ := bind_eq_ok.mp hrest
        obtain rfl : cs ++ cs' = both := Except.ok.inj hboth
        have hconcatenates := concatenates_outputOf hcs hcs'
        rw [hcs, hcs']
        exact ⟨_, _, _, _, _, _, rfl, rfl, rfl, hconcatenates, hlabels⟩

def twinEnum (name : String) : TypeDefinition :=
  ⟨none, false, name, [], .enum [⟨none, "V", []⟩]⟩

/-- What both of them become. -/
def twinModel : EnumModel := ⟨"A_", [⟨"V", "V"⟩]⟩

/-- Two fields with enumerations that are spelled alike. -/
def twinSchema : Schema where
  roots? := none
  directives := []
  types := [⟨none, false, "Query", [], .object []
      [⟨none, "x", [], .named (some "A_"), []⟩, ⟨none, "y", [], .named (some "_A"), []⟩]⟩,
    twinEnum "A_", twinEnum "_A"]

def twinRun : Generator := ⟨twinSchema, [], { target := "python" }, .python, {}⟩

def selectX : List SourceDocument :=
  [⟨"x.graphql", [.operation ⟨none, .parsed .query, some "P", [], [],
    [.field none "x" [] [] none 10], some "query P { x }"⟩]⟩]

def selectY : List SourceDocument :=
  [⟨"y.graphql", [.operation ⟨none, .parsed .query, some "Q", [], [],
    [.field none "y" [] [] none 10], some "query Q { y }"⟩]⟩]

theorem buildable_twins : ∀ t ∈ tasks (selectX ++ selectY), t.Buildable := by
  have hends : ∀ t ∈ tasks (selectX ++ selectY),
      (Selection.merge? t.fragments [t.operation.selections]).isSome := by
    decide +kernel
  have htext : ∀ t ∈ tasks (selectX ++ selectY), t.operation.textFault?.isNone := by
    decide +kernel
  have hread : ∀ t ∈ tasks (selectX ++ selectY), (Input.stop? t.operation.variables).isNone := by
    decide +kernel
  exact fun t ht => ⟨hends t ht, Option.isNone_iff_eq_none.mp (hread t ht),
    fun _ => Option.isNone_iff_eq_none.mp (htext t ht)⟩

theorem escapeFault?_builtIn {r : Resolver} (hr : Response.IsBuiltIn r.target) (name : String) :
    r.escapeFault? name = none := by
  rcases hr with hr | hr <;>
    simp [Resolver.escapeFault?, OperationClasses.escapeFault?, hr, Target.csharp, Target.python,
      EscapeFormat.fault?, EscapeFormat.spell?_around]

theorem build_concatenates_twins :
    (∀ t ∈ tasks (selectX ++ selectY), t.Buildable) ∧
      ∃ o o' both log log' log'',
        (twinRun.on selectX).build = .ok (o, log) ∧ (twinRun.on selectY).build = .ok (o', log') ∧
        (twinRun.on (selectX ++ selectY)).build = .ok (both, log'') ∧
        Concatenates twinRun selectX selectY o o' both ∧
        both.operations.map (fun m => (m.documentPath, m.kind, m.operationName)) =
          [("x.graphql", .query, "P"), ("y.graphql", .query, "Q")] := by
  have hs : twinRun.schema.textFault? = none := by
    rw [← Option.isNone_iff_eq_none]
    decide +kernel
  obtain ⟨hfails, -, hbuilds⟩ := (build_concatenates rfl (escapeFault?_builtIn (.inr rfl))
    buildable_twins).2 hs
  refine ⟨buildable_twins, hbuilds fun value h => ?_⟩
  have hunknown : (tasks (selectX ++ selectY)).findSome? Task.unknownKind? = none := rfl
  rw [hfails, hunknown] at h
  cases h

/-- An enumeration is new to a run when its name in the schema is, even if one with the same
spelling and the same values is there. -/
theorem enums_twins : ∃ o o' both log log' log'',
    (twinRun.on selectX).build = .ok (o, log) ∧ (twinRun.on selectY).build = .ok (o', log') ∧
      (twinRun.on (selectX ++ selectY)).build = .ok (both, log'') ∧
      both.enums ≠ o.enums ++ o'.enums.filter (· ∉ o.enums) := by
  have hx : (twinRun.on selectX).build.toOption.map (·.1.enums) = some [twinModel] := by
    decide +kernel
  have hy : (twinRun.on selectY).build.toOption.map (·.1.enums) = some [twinModel] := by
    decide +kernel
  have hboth : (twinRun.on (selectX ++ selectY)).build.toOption.map (·.1.enums) =
      some [twinModel, twinModel] := by
    decide +kernel
  obtain ⟨o, log, ho, hoenums⟩ := exists_build_of_map (·.enums) hx
  obtain ⟨o', log', ho', ho'enums⟩ := exists_build_of_map (·.enums) hy
  obtain ⟨both, log'', hb, hbenums⟩ := exists_build_of_map (·.enums) hboth
  refine ⟨o, o', both, log, log', log'', ho, ho', hb, ?_⟩
  rw [hoenums, ho'enums, hbenums]
  decide

end OperationClasses.Generator
