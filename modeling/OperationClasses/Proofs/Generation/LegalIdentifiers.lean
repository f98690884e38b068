import OperationClasses.Proofs.Generation.PropertyNames
import OperationClasses.Proofs.Generation.TopLevelNames
import OperationClasses.Proofs.Naming.Legality

/-!
# Legal identifiers in an output

What a built-in target puts in place of the names of a schema and of documents is legal for most of
them. Whether it is can be told from the name itself, and for a class nested in an answer from the
response key and the name it is made from.
-/
namespace OperationClasses

open Syntax Text

/-- The names that a schema defines are names, and its fields have written types. -/
structure Schema.Named (s : Schema) : Prop where
  written : s.Written
  types : ∀ d ∈ s.types, isName d.name
  inputs : ∀ d ∈ s.types, ∀ f ∈ d.inputFields, isName f.name
  values : ∀ d ∈ s.types, ∀ v ∈ d.enumValues, isName v.name

namespace Selection

/-- Response keys are names, and so is what is spread. -/
structure Labelled (fragments : Fragments) (selections : List Syntax.Selection) : Prop where
  named : Named fragments selections
  spreads : ∀ name, Meets fragments selections name → isName name

theorem Labelled.below {fragments : Fragments} {selections inner : List Syntax.Selection}
    (h : Labelled fragments selections) {o : Occurrence} (ho : Occurs fragments none selections o)
    (hset : o.set? = some inner) : Labelled fragments inner :=
  ⟨h.named.below ho hset, fun name hmeets => h.spreads name (ho.meets_of_meets hset hmeets)⟩

/-- Everything in the tree of labelled selections bears a name. -/
theorem isName_key_of_labelled {s : Schema} {fragments : Fragments} {fuel : ℕ}
    {sets : List (List Syntax.Selection)} {l : Level}
    (h : mergeWithin fragments fuel sets = some l) (hsets : ∀ set ∈ sets, Labelled fragments set)
    {parent? : Option String} {f : TypedField} (hf : Within (l.annotate s parent?) f) :
    isName f.key := by
  obtain ⟨_, _, sets', key, hsets', hkey, htyped⟩ :=
    exists_types_of_within h (fun _ _ _ hset => Labelled.below hset) hsets hf
  obtain ⟨o, ho, hokey, -⟩ := exists_origin_groupOf hkey
  obtain ⟨set, hset, hoccurs⟩ := mem_levelOccurrences.mp ho
  rw [htyped.key_eq]
  change isName key
  rw [← hokey]
  cases o with
  | field node c => exact (hsets' set hset).named _ (.last hoccurs) _ (List.mem_singleton_self _)
  | undefinedSpread node =>
    exact (hsets' set hset).spreads node.name (hoccurs.meets_undefined rfl).1

/-- Where all keys and spreads of the text are names, its selections are labelled. -/
theorem labelled_of_text {fragments : Fragments} {selections : List Syntax.Selection}
    (hselections : ∀ name ∈ textKeysAll selections ++ spreadNamesAll selections, isName name)
    (hfragments : ∀ f ∈ fragments,
      ∀ name ∈ textKeysAll f.selections ++ spreadNamesAll f.selections, isName name) :
    Labelled fragments selections := by
  constructor
  · exact named_of_textKeys (fun key hkey => hselections key (List.mem_append_left _ hkey))
      (fun f hf key hkey => hfragments f hf key (List.mem_append_left _ hkey))
  · intro name hmeets
    rcases hmeets.mem_spreadNames with hname | ⟨f, hf, hname⟩
    · exact hselections name (List.mem_append_right _ hname)
    · exact hfragments f hf name (List.mem_append_right _ hname)

end Selection

/-- Everything in an operation bears a name. -/
structure Generator.Task.Labelled (t : Generator.Task) : Prop where
  selections : Selection.Labelled t.fragments t.operation.selections
  variableNames : ∀ v ∈ t.operation.variables, isName v.name
  operationName : ∀ name, t.operation.name? = some name → isName name

namespace Response

/-- A nested class bears an escaped name, perhaps with a number, or the escaped name behind the
words of a response key; in either case it is known when that is legal. -/
def NamedLegally (r : Resolver) (key name identifier : String) : Prop :=
  (identifier = r.escape name ∨ ∃ n : ℕ, identifier = r.escape name ++ toString n) ∧
      (r.target.Accepts identifier ↔ r.target.Keeps name) ∨
    identifier = Naming.pascalCase key ++ r.escape name ∧
      (r.target.Accepts identifier ↔ r.target.KeepsBehind key name identifier)

theorem namedLegally_freeName {r : Resolver} (hr : r.IsDefault) {f : TypedField} (hf : Regular f)
    (used : List String) :
    NamedLegally r f.key (plainName f.key f.type) (freeName r used f.key f.type) := by
  have hplain := plain_plainName hf
  have hbase : baseName r f.key f.type = r.escape (plainName f.key f.type) := rfl
  rcases freeName_cases r used f.key f.type with hname | hname | ⟨n, hname⟩ <;> rw [hname, hbase]
  · exact .inl ⟨.inl rfl, accepts_escape hr hplain⟩
  · by_cases hwords : Naming.pascalCase f.key = ""
    · rw [hwords, String.empty_append]
      exact .inl ⟨.inl rfl, accepts_escape hr hplain⟩
    · exact .inr ⟨rfl, accepts_prefixed hr hf.key hplain hwords⟩
  · exact .inl ⟨.inr ⟨n, rfl⟩, accepts_numbered hr hplain n⟩

/-- Every class nested in a class of an answer is made for a field, under whose key it is known
when its name is legal. -/
theorem exists_namedLegally {r : Resolver} (hr : r.IsDefault) (name : String)
    {fields : List TypedField} (hregular : ∀ f, Selection.Within fields f → Regular f)
    {c n : ClassModel} (hc : NestedIn (classNamed r name fields) c) (hn : n ∈ c.classes) :
    ∃ f, Selection.Within fields f ∧ ∃ p ∈ c.properties, p.graphqlName = f.key ∧
      NamedLegally r f.key (plainName f.key f.type) n.name := by
  have hfounded : ∀ f, Selection.Within fields f → Founded f :=
    fun f hf => (hregular f hf).toFounded
  obtain ⟨level, hlevel, heq, hlevelFounded⟩ := exists_level_of_nestedIn hc rfl hfounded
  rw [heq] at hn ⊢
  obtain ⟨f, used, children, hmem, -, rfl⟩ := exists_field_of_mem_members hlevelFounded hn
  have hf : f ∈ level := (List.of_mem_zip hmem).1
  have hwithin := within_of_levelIn hlevel (.here hf)
  refine ⟨f, hwithin, propertyOf r used f, (List.of_mem_zip hmem).2, ?_, ?_⟩
  · exact graphqlName_propertyOf r used (hregular f hwithin)
  · exact namedLegally_freeName hr (hregular f hwithin) used

end Response

namespace Generator

open Response

theorem accepts_of_word {t : Target} {word : String} (h : IsPythonIdentifier word) :
    t.Accepts word :=
  ⟨fun _ => .inl h.1, fun _ => h⟩

theorem isPythonIdentifier_nameOf (kind : OperationKind) {operationName : String}
    (h : isName operationName) :
    IsPythonIdentifier (OperationModel.nameOf kind operationName) := by
  refine ⟨OperationModel.isName_nameOf kind h, fun hmem => ?_⟩
  have hheads : ∀ c ∈ ['q', 'm', 's'], ∀ word ∈ PythonModule.keywords,
      word.toList.head? ≠ some c := by
    intro c hc
    simp only [List.mem_cons, List.not_mem_nil, or_false] at hc
    rcases hc with rfl | rfl | rfl <;> decide
  obtain ⟨c, hc, -, rest, hname⟩ := OperationModel.exists_nameOf_cons kind operationName
  exact hheads c hc _ hmem (by rw [hname, List.head?_cons])

/-- The enumerations of an output are those of the schema. -/
theorem exists_type_of_mem_enums {g : Generator} {output : Output} {log : List LogEntry}
    (h : g.build = .ok (output, log)) {e : EnumModel} (he : e ∈ output.enums) :
    ∃ d ∈ g.schema.types, e = enumModel g.resolver d := by
  obtain ⟨cs, -, rfl⟩ := exists_contributions_of_build h
  obtain ⟨d, hd, rfl⟩ := List.mem_map.mp he
  exact ⟨d, List.mem_of_find?_eq_some (mem_enumerationsMet.mp hd).2, rfl⟩

/-- Where everything in an operation bears a name and the schema has names and written types, the
typed fields of the operation are regular. -/
theorem regular_annotate {s : Schema} (hs : s.Named) {t : Task} (ht : t.Labelled)
    {l : Selection.Level} (hl : Selection.merge? t.fragments [t.operation.selections] = some l)
    {parent? : Option String} {f : TypedField} (hf : Selection.Within (l.annotate s parent?) f) :
    Regular f where
  toFounded := founded_annotate hs.written hl hf
  key := Selection.isName_key_of_labelled hl (by simpa using ht.selections) hf

theorem acceptsProperty_iff_of_forall₂ {r : Resolver} (hr : r.IsDefault) {names : List String}
    {ps : List Property} (hfor : List.Forall₂ (PropertyFor r) names ps)
    (hnames : ∀ name ∈ names, isName name) : ∀ p ∈ ps,
      (r.target.AcceptsProperty p.name ↔ (r.target = .python → isName (stem p.graphqlName))) := by
  intro p hp
  obtain ⟨name, hname, hp⟩ := Selection.exists_mem_of_forall₂ hfor.flip hp
  have hpropertyFor : PropertyFor r name p := hp
  rw [hpropertyFor.name_eq, hpropertyFor.graphqlName_eq hr]
  exact acceptsProperty_escape hr (hnames name hname)

/-- The names of enumerations and of their values are legal if they are kept. -/
theorem accepts_enums_of_build {g : Generator} (hr : g.resolver.IsDefault)
    (hschema : g.schema.Named) {output : Output} {log : List LogEntry}
    (h : g.build = .ok (output, log)) :
    ∀ e ∈ output.enums, ∃ d ∈ g.schema.types, e = enumModel g.resolver d ∧
      (g.target.Accepts e.name ↔ g.target.Keeps d.name) ∧
      ∀ v ∈ e.members, (g.target.Accepts v.name ↔ g.target.Keeps v.value) := by
  intro e he
  obtain ⟨d, hd, rfl⟩ := exists_type_of_mem_enums h he
  refine ⟨d, hd, rfl, accepts_escape hr (plain_of_isName (hschema.types d hd)), fun v hv => ?_⟩
  obtain ⟨value, hvalue, rfl⟩ := List.mem_map.mp hv
  exact accepts_escape hr (plain_of_isName (hschema.values d hd value hvalue))

/-- The names of input classes are legal if they are kept. -/
theorem accepts_inputClasses_of_build {g : Generator} (hr : g.resolver.IsDefault)
    (hschema : g.schema.Named) {output : Output} {log : List LogEntry}
    (h : g.build = .ok (output, log)) {m : OperationModel} (hm : m ∈ output.operations) :
    ∀ c ∈ m.inputClasses, ∃ d ∈ g.schema.types, c = Input.classOf g.resolver d ∧
      (g.target.Accepts c.name ↔ g.target.Keeps d.name) := by
  intro c hc
  obtain ⟨t, -, -, l, -, -, -, hinputs⟩ := exists_task_of_build h hm
  rw [hinputs] at hc
  obtain ⟨d, hd, rfl⟩ := Input.exists_type_of_mem_expandVariables hc
  exact ⟨d, hd, rfl, accepts_escape hr (plain_of_isName (hschema.types d hd))⟩

/-- The name of a property is legal unless, in Python, no letter follows the leading underscores of
the key it stands for. -/
theorem acceptsProperty_iff_of_build {g : Generator} (hr : g.resolver.IsDefault)
    (hschema : g.schema.Named) (htasks : ∀ t ∈ tasks (g.hooks.before g.documents), t.Labelled)
    {output : Output} {log : List LogEntry} (h : g.build = .ok (output, log)) {m : OperationModel}
    (hm : m ∈ output.operations) {c : ClassModel}
    (hc : NestedIn m.response c ∨ c ∈ m.request :: m.inputClasses) : ∀ p ∈ c.properties,
      (g.target.AcceptsProperty p.name ↔ (g.target = .python → isName (stem p.graphqlName))) := by
  obtain ⟨t, ht, -, l, hl, hresponse, hrequest, hinputs⟩ := exists_task_of_build h hm
  rcases hc with hc | hc
  · rw [hresponse] at hc
    obtain ⟨level, hlevel, hmembers⟩ := exists_levelIn_of_nestedIn hc (isOfLevel_classNamed ..)
    refine acceptsProperty_iff_of_forall₂ hr hmembers.forall₂_propertyFor fun key hkey => ?_
    obtain ⟨f, hf, rfl⟩ := List.mem_map.mp hkey
    exact (regular_annotate hschema (htasks t ht) hl (within_of_levelIn hlevel (.here hf))).key
  · rcases List.mem_cons.mp hc with rfl | hc
    · rw [hrequest]
      refine acceptsProperty_iff_of_forall₂ hr (Input.forall₂_propertyFor_request _ _)
        fun name hname => ?_
      obtain ⟨v, hv, rfl⟩ := List.mem_map.mp hname
      exact (htasks t ht).variableNames v hv
    · rw [hinputs] at hc
      obtain ⟨d, hd, rfl⟩ := Input.exists_type_of_mem_expandVariables hc
      refine acceptsProperty_iff_of_forall₂ hr (Input.forall₂_propertyFor_classOf _ d)
        fun name hname => ?_
      obtain ⟨f, hf, rfl⟩ := List.mem_map.mp hname
      exact hschema.inputs d hd f hf

/-- When the identifiers of an output are legal, with a built-in target and its reserved words.
Those of enumerations, of their values and of input classes are unless, in Python, a digit follows the
leading underscores of the name. Those of properties are if, in Python, a letter follows them. That
of a class nested in an answer is if the name it is made from is kept, or, where the words of a
response key stand before it, if the whole is. Those of operations, of their answers and of their
requests always are. -/
theorem accepts_iff_of_build {g : Generator} (htarget : IsBuiltIn g.target)
    (hwords : g.config.reservedWords? = none) (hschema : g.schema.Named)
    (htasks : ∀ t ∈ tasks (g.hooks.before g.documents), t.Labelled) {output : Output}
    {log : List LogEntry} (h : g.build = .ok (output, log)) :
    (∀ e ∈ output.enums, ∃ d ∈ g.schema.types, e = enumModel g.resolver d ∧
      (g.target.Accepts e.name ↔ g.target.Keeps d.name) ∧
      ∀ v ∈ e.members, (g.target.Accepts v.name ↔ g.target.Keeps v.value)) ∧
    ∀ m ∈ output.operations,
      (∀ name ∈ [m.name, m.response.name, m.request.name], g.target.Accepts name) ∧
      (∀ c ∈ m.inputClasses, ∃ d ∈ g.schema.types, c = Input.classOf g.resolver d ∧
        (g.target.Accepts c.name ↔ g.target.Keeps d.name)) ∧
      (∀ c, NestedIn m.response c ∨ c ∈ m.request :: m.inputClasses → ∀ p ∈ c.properties,
        (g.target.AcceptsProperty p.name ↔ (g.target = .python → isName (stem p.graphqlName)))) ∧
      ∃ t ∈ tasks (g.hooks.before g.documents), ∃ l,
        Selection.merge? t.fragments [t.operation.selections] = some l ∧
        m.response =
          ofOperation g.resolver (l.annotate g.schema (rootName? g.schema m.kind)) ∧
        ∀ c, NestedIn m.response c → ∀ n ∈ c.classes,
          ∃ f, Selection.Within (l.annotate g.schema (rootName? g.schema m.kind)) f ∧
            ∃ p ∈ c.properties, p.graphqlName = f.key ∧
              NamedLegally g.resolver f.key (plainName f.key f.type) n.name := by
  have hr := isDefault_resolver htarget hwords
  refine ⟨accepts_enums_of_build hr hschema h, fun m hm => ?_⟩
  obtain ⟨t, ht, hlabel, l, hl, hresponse, hrequest, -⟩ := exists_task_of_build h hm
  have hlabelled := htasks t ht
  refine ⟨?_, accepts_inputClasses_of_build hr hschema h hm,
    fun c hc => acceptsProperty_iff_of_build hr hschema htasks h hm hc,
    t, ht, l, hl, hresponse, fun c hc n hn => ?_⟩
  · have hoperation : isName m.operationName := by
      obtain ⟨name, hname, heq⟩ := Option.bind_eq_some_iff.mp hlabel
      obtain ⟨kind, -, heq⟩ := Option.map_eq_some_iff.mp heq
      rw [← (Prod.mk.inj (Prod.mk.inj heq).2).2]
      exact hlabelled.operationName name hname
    have hresponseName : m.response.name = "Response" := by rw [hresponse]; rfl
    have hrequestName : m.request.name = "Request" := by rw [hrequest]; rfl
    rw [hresponseName, hrequestName, name_eq_nameOf_of_build h hm]
    simp only [List.forall_mem_cons, List.not_mem_nil, IsEmpty.forall_iff, implies_true, and_true]
    exact ⟨accepts_of_word (isPythonIdentifier_nameOf m.kind hoperation),
      accepts_of_word (by decide), accepts_of_word (by decide)⟩
  · rw [hresponse] at hc
    exact exists_namedLegally hr className (fun f => regular_annotate hschema hlabelled hl) hc hn

theorem named_shelfSchema : shelfSchema.Named where
  written := by
    intro d hd f hf
    simp only [shelfSchema, List.mem_cons, List.not_mem_nil, or_false] at hd
    rcases hd with rfl | rfl
    · simp only [TypeDefinition.fields, List.mem_cons, List.not_mem_nil, or_false] at hf
      rcases hf with rfl | rfl | rfl <;> exact .named (by decide)
    · cases hf
  types := by decide
  inputs := by decide
  values := by decide

theorem accepts_shelfRun : ∃ output log m, shelfRun.build = .ok (output, log) ∧
    output.operations = [m] ∧ ∀ c ∈ m.response :: m.request :: m.inputClasses,
      c.properties ≠ [] ∧ ∀ p ∈ c.properties, Target.python.AcceptsProperty p.name := by
  obtain ⟨output, log, m, hbuild, hm, hnames⟩ := exists_build_shelfRun
  have hlabelled : ∀ t ∈ tasks (shelfRun.hooks.before shelfRun.documents), t.Labelled := by
    intro t ht
    obtain rfl : t = ⟨[], "shelf.graphql", shelfQuery⟩ := List.mem_singleton.mp ht
    refine ⟨Selection.labelled_of_text (by decide) (by decide), by decide, fun name hname => ?_⟩
    cases hname
    decide
  obtain ⟨-, hoperations⟩ :=
    accepts_iff_of_build (.inr rfl) rfl named_shelfSchema hlabelled hbuild
  obtain ⟨-, -, hproperties, t, ht, -⟩ := hoperations m (by simp [hm])
  have hstems : ∀ names ∈ shelfNames, ∀ name ∈ names, isName (stem name) := by
    decide +kernel
  refine ⟨output, log, m, hbuild, hm, fun c hc => ⟨fun hnil => ?_, fun p hp => ?_⟩⟩
  · have hempty := hnames c hc
    rw [hnil, List.map_nil] at hempty
    exact absurd hempty (by decide)
  · have hclass : NestedIn m.response c ∨ c ∈ m.request :: m.inputClasses := by
      rcases List.mem_cons.mp hc with rfl | hc
      · exact .inl (.itself _)
      · exact .inr hc
    exact (hproperties c hclass p hp).mpr fun _ =>
      hstems _ (hnames c hc) _ (List.mem_map_of_mem hp)

def digitSchema : Schema where
  roots? := none
  directives := []
  types := [⟨none, false, "Query", [], .object [] [⟨none, "_1", [], .named (some "Int"), []⟩]⟩]

def digitQuery : Operation :=
  ⟨none, .parsed .query, some "Q", [], [], [Selection.plainField "_1" none],
    some "query Q \x7b _1 \x7d"⟩

def digitRun : Generator :=
  ⟨digitSchema, [⟨"digits.graphql", [.operation digitQuery]⟩], { target := "python" }, .python, {}⟩

/-- A field with a name becomes a property that begins with a digit. -/
theorem not_accepts_digitRun : Schema.build "" (documentOf digitSchema) = .ok digitRun.schema ∧
    digitRun.schema.Named ∧ (∀ t ∈ tasks (digitRun.hooks.before digitRun.documents), t.Labelled) ∧
    ∃ output log, digitRun.build = .ok (output, log) ∧ ∃ m ∈ output.operations,
      m.response.properties.map (·.graphqlName) = ["_1"] ∧
      m.response.properties.map (·.name) = ["1_"] ∧ ¬ Target.python.Accepts "1_" := by
  obtain ⟨output, log, hbuild, hnames⟩ :=
    exists_build_of_map (g := digitRun) (fun o => o.operations.map (·.operationName))
      (show _ = some ["Q"] by decide +kernel)
  obtain ⟨m, hm, -⟩ := List.map_eq_singleton_iff.mp hnames
  have hmem : m ∈ output.operations := by simp [hm]
  obtain ⟨l, hmerge, hkeys⟩ : ∃ l, Selection.merge? [] [digitQuery.selections] = some l ∧
      ∀ s parent?, (l.annotate s parent?).map (·.key) = ["_1"] :=
    ⟨_, rfl, fun _ _ => rfl⟩
  have hfor := (isOfLevel_classNamed digitRun.resolver className
    (l.annotate digitSchema (rootName? digitSchema m.kind))).forall₂_propertyFor
  have hresponse := response_of_onlyTask hbuild rfl hmerge hmem
  refine ⟨rfl, ⟨?_, by decide, by decide, by decide⟩, ?_, output, log, hbuild, m, hmem, ?_, ?_, ?_⟩
  · intro d hd f hf
    obtain rfl := List.mem_singleton.mp hd
    obtain rfl := List.mem_singleton.mp hf
    exact .named (by decide)
  · intro t ht
    obtain rfl : t = ⟨[], "digits.graphql", digitQuery⟩ := List.mem_singleton.mp ht
    refine ⟨Selection.labelled_of_text (by decide) (by decide), by decide, fun name hname => ?_⟩
    cases hname
    decide
  · rw [hresponse]
    exact (map_graphqlName_of_propertiesFor (isDefault_resolver (.inr rfl) rfl) hfor).trans
      (hkeys _ _)
  · have hspelled : ["_1"].map digitRun.resolver.escape = ["1_"] := by decide
    rw [hresponse]
    exact (map_name_of_propertiesFor hfor).trans ((congrArg _ (hkeys _ _)).trans hspelled)
  · rw [Target.accepts_python_iff]
    decide

end Generator

end OperationClasses
