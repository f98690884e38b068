import OperationClasses.Proofs.Generation.HoistedInputs
import OperationClasses.Proofs.Generation.LegalIdentifiers
import OperationClasses.Proofs.Generation.Shadowing
import OperationClasses.Proofs.Layout.ClassLines

/-!
# Names of members in C#

C# refuses a class in which two members bear one name, or a member the name of the class. The
classes nested in an answer take names that are free in the class around them, but nobody looks at
what they declare themselves; and the input classes are nested in a request under the names of the
schema, whatever the variables beside them are called.
-/
namespace OperationClasses

open Syntax Response

/-- The name that an identifier of C# stands for: an at sign in front of it is no part of it. -/
def csharpName (identifier : String) : String :=
  match identifier.toList with
  | '@' :: rest => String.ofList rest
  | _ => identifier

theorem csharpName_at (name : String) : csharpName ("@" ++ name) = name := by
  simp [csharpName]

theorem csharpName_of_plain {identifier : String} (h : Plain identifier.toList) :
    csharpName identifier = identifier := by
  unfold csharpName
  split
  · next rest hs =>
    have hpart := h '@' (by simp [hs])
    exact absurd hpart (by decide)
  · rfl

/-- An escaped name stands for the name itself. -/
theorem csharpName_escape {r : Resolver} (hr : r.IsDefault) (htarget : r.target = .csharp)
    {name : String} (hname : isName name) : csharpName (r.escape name) = name := by
  rw [escape_csharp hr htarget]
  split
  · exact csharpName_at name
  · exact csharpName_of_plain (plain_of_isName hname)

namespace ClassModel

/-- The names of all that a class declares directly. -/
def memberNames (c : ClassModel) : List String :=
  (c.classes.map (·.name) ++ c.properties.map (·.name)).map csharpName

/-- No member of a class bears the name of the class. -/
def SparesOwnName (c : ClassModel) : Prop := csharpName c.name ∉ c.memberNames

/-- A class declares each name once, and leaves its own alone. -/
structure DeclaresOnce (c : ClassModel) : Prop where
  nodup : c.memberNames.Nodup
  own : c.SparesOwnName

end ClassModel

variable {r : Resolver}

theorem map_csharpName_of_propertiesFor (hr : r.IsDefault) (htarget : r.target = .csharp)
    {names : List String} {ps : List Property} (h : List.Forall₂ (PropertyFor r) names ps)
    (hnames : ∀ name ∈ names, isName name) : (ps.map (·.name)).map csharpName = names := by
  have hescape : ∀ name ∈ names, csharpName (r.escape name) = id name :=
    fun name hname => csharpName_escape hr htarget (hnames name hname)
  rw [map_name_of_propertiesFor h, List.map_map]
  exact (List.map_congr_left hescape).trans (List.map_id names)

namespace Input

theorem mem_types_of_reachedFrom {s : Schema} {vs : List VariableDefinition} {d : TypeDefinition}
    (h : ReachedFrom s vs d) : d ∈ s.types := by
  obtain ⟨v, -, root, hroot, hreach⟩ := h
  rcases hreach.cases_tail with rfl | ⟨c, -, hneeds⟩
  · exact List.mem_of_find?_eq_some (input?_of_nested? hroot)
  · exact List.mem_of_find?_eq_some hneeds.input?

/-- What is declared in a request that holds input classes: the types and the variables. -/
theorem memberNames_holding (hr : r.IsDefault) (htarget : r.target = .csharp)
    {types : List TypeDefinition} {vs : List VariableDefinition}
    (htypes : ∀ d ∈ types, isName d.name) (hvs : ∀ v ∈ vs, isName v.name) :
    ((request r vs).holding (types.map (classOf r))).memberNames =
      types.map (·.name) ++ vs.map (·.name) := by
  have hclasses : ((types.map (classOf r)).map (·.name)).map csharpName = types.map (·.name) := by
    rw [List.map_map, List.map_map]
    exact List.map_congr_left fun d hd => csharpName_escape hr htarget (htypes d hd)
  have hproperties := map_csharpName_of_propertiesFor hr htarget (forall₂_propertyFor_request r vs)
    (by simpa using hvs)
  have hheld : ((request r vs).holding (types.map (classOf r))).memberNames =
      ((types.map (classOf r)).map (·.name)).map csharpName ++
        ((request r vs).properties.map (·.name)).map csharpName := by
    simp [ClassModel.memberNames, ClassModel.holding, request, ClassModel.flat]
  rw [hheld, hclasses, hproperties]

/-- A request declares each name once, if its variables differ, exactly when no variable and no type
they lead to is called like the request, and no variable like such a type. -/
theorem declaresOnce_request_iff (hr : r.IsDefault) (htarget : r.target = .csharp) {s : Schema}
    {vs : List VariableDefinition} (htypes : ∀ d ∈ s.types, isName d.name)
    (hvs : ∀ v ∈ vs, isName v.name) (hnodup : (vs.map (·.name)).Nodup) :
    ((request r vs).holding (expandVariables r s vs {}).classes).DeclaresOnce ↔
      (∀ v ∈ vs, v.name ≠ "Request") ∧
        ∀ d, ReachedFrom s vs d → d.name ≠ "Request" ∧ ∀ v ∈ vs, v.name ≠ d.name := by
  obtain ⟨types, hclasses, hhoisted, hmem⟩ := exists_hoisted_expandVariables r s vs
  have hisName : ∀ d ∈ types, isName d.name :=
    fun d hd => htypes d (mem_types_of_reachedFrom ((hmem d).mp hd))
  have hmembers := memberNames_holding hr htarget hisName hvs
  have hname : csharpName "Request" = "Request" :=
    csharpName_of_plain (plain_of_isName (by decide))
  have hown : csharpName ((request r vs).holding (types.map (classOf r))).name = "Request" := hname
  rw [hclasses]
  constructor
  · rintro ⟨hapart, hspared⟩
    rw [ClassModel.SparesOwnName, hown, hmembers, List.mem_append, not_or] at hspared
    rw [hmembers, List.nodup_append'] at hapart
    refine ⟨fun v hv heq => hspared.2 (List.mem_map.mpr ⟨v, hv, heq⟩), fun d hd => ?_⟩
    have hd' := (hmem d).mpr hd
    refine ⟨fun heq => hspared.1 (List.mem_map.mpr ⟨d, hd', heq⟩), fun v hv heq => ?_⟩
    exact hapart.2.2 (List.mem_map_of_mem hd') (List.mem_map.mpr ⟨v, hv, heq⟩)
  · rintro ⟨hvariables, hreached⟩
    constructor
    · rw [hmembers, List.nodup_append']
      refine ⟨hhoisted.nodup, hnodup, fun name hd hv => ?_⟩
      obtain ⟨d, hmemd, rfl⟩ := List.mem_map.mp hd
      obtain ⟨v, hmemv, heq⟩ := List.mem_map.mp hv
      exact (hreached d ((hmem d).mp hmemd)).2 v hmemv heq
    · rw [ClassModel.SparesOwnName, hown, hmembers, List.mem_append, not_or]
      constructor
      · rintro h
        obtain ⟨d, hd, heq⟩ := List.mem_map.mp h
        exact (hreached d ((hmem d).mp hd)).1 heq
      · rintro h
        obtain ⟨v, hv, heq⟩ := List.mem_map.mp h
        exact hvariables v hv heq

end Input

namespace Response

theorem NestedIn.tail {c d n : ClassModel} (h : NestedIn c d) (hn : n ∈ d.classes) :
    NestedIn c n := by
  induction h with
  | itself => exact .inside hn (.itself n)
  | inside hd _ ih => exact .inside hd (ih hn)

/-- A class in a class is that class or stands directly in another one. -/
theorem NestedIn.eq_or_exists {c d : ClassModel} (h : NestedIn c d) :
    d = c ∨ ∃ e, NestedIn c e ∧ d ∈ e.classes := by
  induction h with
  | itself => exact .inl rfl
  | @inside c d n hn _ ih =>
    rcases ih with rfl | ⟨e, he, hd⟩
    · exact .inr ⟨c, .itself c, hn⟩
    · exact .inr ⟨e, .inside hn he, hd⟩

/-- A class of an answer has the name of the answer or is named after a field. -/
theorem eq_or_exists_namedAfter {name : String} {fields : List TypedField}
    (hfounded : ∀ f, Selection.Within fields f → Founded f) {d : ClassModel}
    (hd : NestedIn (classNamed r name fields) d) :
    d.name = name ∨
      ∃ f, Selection.Within fields f ∧ f.children?.isSome ∧ NamedAfter r f d.name := by
  rcases hd.eq_or_exists with rfl | ⟨e, he, hde⟩
  · exact .inl rfl
  · obtain ⟨level, hlevel, heq, hbelow⟩ := exists_level_of_nestedIn he rfl hfounded
    rw [heq] at hde
    obtain ⟨f, hf, hchildren, hnamed⟩ := exists_namedAfter hbelow hde
    exact .inr ⟨f, within_of_levelIn hlevel (.here hf), hchildren, hnamed⟩

/-- A class that is named after a field has an at sign in its name only if the type of the field is
called like a reserved word. -/
theorem plain_of_namedAfter (hr : r.IsDefault) (htarget : r.target = .csharp) {f : TypedField}
    (hf : Regular f) (hword : plainName f.key f.type ∉ Target.csharp.reservedWords) {name : String}
    (h : NamedAfter r f name) : Plain name.toList := by
  have hbase : Plain (baseName r f.key f.type).toList :=
    (plain_escape_csharp_iff hr htarget (plain_plainName hf)).mpr hword
  rcases h with rfl | rfl | ⟨n, rfl⟩
  · exact hbase
  · intro c hc
    rcases List.mem_append.mp (String.toList_append ▸ hc) with hc | hc
    · exact plain_pascalCase hf.key c hc
    · exact hbase c hc
  · intro c hc
    rcases List.mem_append.mp (String.toList_append ▸ hc) with hc | hc
    · exact hbase c hc
    · obtain ⟨d, rest, hn, hdigits⟩ := exists_toString_cons n
      exact isNamePart_of_isDigit (hdigits c (hn ▸ hc))

/-- In a class for a level of fields no member bears the name of the class exactly if no response
key of the level does, and no class nested in it with an at sign more or less. -/
theorem sparesOwnName_classNamed (hr : r.IsDefault) (htarget : r.target = .csharp) (name : String)
    {level : List TypedField} (hkeys : ∀ f ∈ level, isName f.key) :
    (classNamed r name level).SparesOwnName ↔
      (∀ f ∈ level, f.key ≠ csharpName name) ∧
        ∀ c ∈ (classNamed r name level).classes, csharpName c.name ≠ csharpName name := by
  have hname : (classNamed r name level).name = name := rfl
  have hproperties := map_csharpName_of_propertiesFor hr htarget
    (isOfLevel_classNamed r name level).forall₂_propertyFor (by simpa using hkeys)
  rw [ClassModel.SparesOwnName, ClassModel.memberNames, List.map_append, hproperties, hname,
    List.mem_append, not_or, and_comm]
  simp

/-- Nested classes with plain names leave the name of the class around them alone. -/
theorem csharpName_ne_of_plain {c : ClassModel} (hfree : HasFreeNames c) (hc : Plain c.name.toList)
    {d : ClassModel} (hd : d ∈ c.classes) (hplain : Plain d.name.toList) :
    csharpName d.name ≠ csharpName c.name := by
  rw [csharpName_of_plain hplain, csharpName_of_plain hc]
  exact fun heq => hfree.own (List.mem_map.mpr ⟨d, hd, heq⟩)

/-- In a class nested in an answer for C#, no member bears the name of the class exactly if no
response key of its level is that name, and no nested class with an at sign more or less; that the
names of nested classes differ from it is seen to, so only the keys matter as long as no type of a
field is called like a reserved word. -/
theorem sparesOwnName_iff_of_nestedIn (hr : r.IsDefault) (htarget : r.target = .csharp)
    {fields : List TypedField} (hregular : ∀ f, Selection.Within fields f → Regular f)
    {d : ClassModel} (hd : NestedIn (ofOperation r fields) d) :
    ∃ level, LevelIn fields level ∧ d = classNamed r d.name level ∧
      (d.name = "Response" ∨
        ∃ f, Selection.Within fields f ∧ f.children?.isSome ∧ NamedAfter r f d.name) ∧
      (d.SparesOwnName ↔ (∀ f ∈ level, f.key ≠ csharpName d.name) ∧
        ∀ c ∈ d.classes, csharpName c.name ≠ csharpName d.name) ∧
      (∀ c ∈ d.classes, c.name ≠ d.name) ∧
      ((∀ f, Selection.Within fields f → f.children?.isSome →
          plainName f.key f.type ∉ Target.csharp.reservedWords) →
        (d.SparesOwnName ↔ ∀ f ∈ level, f.key ≠ d.name)) := by
  have hfounded : ∀ f, Selection.Within fields f → Founded f :=
    fun f hf => (hregular f hf).toFounded
  obtain ⟨level, hlevel, heq, hbelow⟩ := exists_level_of_nestedIn hd rfl hfounded
  have hnamed := eq_or_exists_namedAfter hfounded hd
  have hfree : HasFreeNames d := heq ▸ hasFreeNames_classNamed r d.name hbelow
  have hspares : d.SparesOwnName ↔ (∀ f ∈ level, f.key ≠ csharpName d.name) ∧
      ∀ c ∈ d.classes, csharpName c.name ≠ csharpName d.name := by
    rw [heq]
    exact sparesOwnName_classNamed hr htarget d.name fun f hf =>
      (hregular f (within_of_levelIn hlevel (.here hf))).key
  refine ⟨level, hlevel, heq, hnamed, hspares, fun c hc hname => ?_, fun hplainNames => ?_⟩
  · exact hfree.own (List.mem_map.mpr ⟨c, hc, hname⟩)
  · have hplain : ∀ {e : ClassModel}, NestedIn (classNamed r className fields) e →
        Plain e.name.toList := by
      intro e he
      rcases eq_or_exists_namedAfter hfounded he with hname | ⟨f, hf, hchildren, hname⟩
      · exact hname ▸ plain_of_isName (by decide)
      · exact plain_of_namedAfter hr htarget (hregular f hf) (hplainNames f hf hchildren) hname
    rw [hspares, csharpName_of_plain (hplain hd)]
    refine and_iff_left fun c hc => ?_
    have hname := csharpName_ne_of_plain hfree (hplain hd) hc (hplain (hd.tail hc))
    rwa [csharpName_of_plain (hplain hd)] at hname

end Response

namespace Generator

/-- In a run for C# with its reserved words, what stands in the class of a request is its variables
and the input types they lead to. Each name is declared once there, if the variables have different
ones, exactly when nothing is called like the request and no variable like one of these types. -/
theorem declaresOnce_request_of_build {g : Generator} (hcsharp : g.target = .csharp)
    (hwords : g.config.reservedWords? = none) (htypes : ∀ d ∈ g.schema.types, isName d.name)
    (hvariables : ∀ t ∈ tasks (g.hooks.before g.documents), ∀ v ∈ t.operation.variables,
      isName v.name)
    {output : Output} {log : List LogEntry} (h : g.build = .ok (output, log)) :
    ∀ m ∈ output.operations, ∃ t ∈ tasks (g.hooks.before g.documents),
      t.label? = some (m.documentPath, m.kind, m.operationName) ∧
      m.request = Input.request g.resolver t.operation.variables ∧
      m.inputClasses =
        (Input.expandVariables g.resolver g.schema t.operation.variables {}).classes ∧
      Layout.CSharp.classWith m.inputClasses m.request =
        Layout.CSharp.classText (m.request.holding m.inputClasses) ∧
      ((t.operation.variables.map (·.name)).Nodup →
        ((m.request.holding m.inputClasses).DeclaresOnce ↔
          (∀ v ∈ t.operation.variables, v.name ≠ "Request") ∧
            ∀ d, Input.ReachedFrom g.schema t.operation.variables d →
              d.name ≠ "Request" ∧ ∀ v ∈ t.operation.variables, v.name ≠ d.name)) := by
  intro m hm
  obtain ⟨t, ht, hlabel, l, -, -, hrequest, hinputs⟩ := exists_task_of_build h hm
  refine ⟨t, ht, hlabel, hrequest, hinputs, Layout.CSharp.classWith_eq _ _, fun hnodup => ?_⟩
  rw [hrequest, hinputs]
  exact Input.declaresOnce_request_iff (isDefault_resolver (.inl hcsharp) hwords) hcsharp htypes
    (hvariables t ht) hnodup

/-- In a run for C# with its reserved words, each class of an answer is that of a level of typed
fields and is called `Response` or after a field. No member of it has its name exactly if no
response key of its level is that name, and no nested class with an at sign more or less; that the
names of nested classes differ from it is seen to, so only the keys matter as long as no type of a
field is called like a reserved word. -/
theorem sparesOwnName_iff_of_build {g : Generator} (hcsharp : g.target = .csharp)
    (hwords : g.config.reservedWords? = none) (hschema : g.schema.Named)
    (htasks : ∀ t ∈ tasks (g.hooks.before g.documents), t.Labelled) {output : Output}
    {log : List LogEntry} (h : g.build = .ok (output, log)) :
    ∀ m ∈ output.operations, ∃ t ∈ tasks (g.hooks.before g.documents),
      t.label? = some (m.documentPath, m.kind, m.operationName) ∧
      ∃ fields notes, typedFields g.schema t.fragments m.kind t.operation = .ok (fields, notes) ∧
        m.response = ofOperation g.resolver fields ∧
        ∀ d, NestedIn m.response d → ∃ level, LevelIn fields level ∧
          d = classNamed g.resolver d.name level ∧
          (d.name = "Response" ∨
            ∃ f, Selection.Within fields f ∧ f.children?.isSome ∧ NamedAfter g.resolver f d.name) ∧
          (d.SparesOwnName ↔ (∀ f ∈ level, f.key ≠ csharpName d.name) ∧
            ∀ c ∈ d.classes, csharpName c.name ≠ csharpName d.name) ∧
          (∀ c ∈ d.classes, c.name ≠ d.name) ∧
          ((∀ f, Selection.Within fields f → f.children?.isSome →
              plainName f.key f.type ∉ Target.csharp.reservedWords) →
            (d.SparesOwnName ↔ ∀ f ∈ level, f.key ≠ d.name)) := by
  have hr := isDefault_resolver (.inl hcsharp) hwords
  intro m hm
  obtain ⟨t, ht, hlabel, l, hl, hresponse, -⟩ := exists_task_of_build h hm
  refine ⟨t, ht, hlabel, _, _, typedFields_of_merge? hl m.kind, hresponse, fun d hd => ?_⟩
  rw [hresponse] at hd
  exact sparesOwnName_iff_of_nestedIn hr hcsharp
    (fun f => regular_annotate hschema (htasks t ht) hl) hd

/-- The size of a folder, with the folder in a variable that is called like its type. -/
def folderQuery : Operation :=
  ⟨none, .parsed .query, some "Size", [⟨none, "Folder", .named (some "Folder"), none, []⟩], [],
    [.field none "size" [⟨"folder", .variable "Folder", 36⟩] [] none 30],
    some "query Size($Folder: Folder) { size(folder: $Folder) }"⟩

def requestRun (o : Operation) : Generator :=
  ⟨driveSchema, [⟨"drive.graphql", [.operation o]⟩], {}, .csharp, {}⟩

theorem declaresOnce_sizeQuery : ∃ output log m, (requestRun sizeQuery).build = .ok (output, log) ∧
    output.operations = [m] ∧ m.inputClasses.map (·.name) = ["Entry", "Owner", "Folder"] ∧
      (m.request.holding m.inputClasses).DeclaresOnce := by
  obtain ⟨output, log, hbuild, hnames⟩ := exists_build_of_map (g := requestRun sizeQuery)
    (fun o => o.operations.map fun m => m.inputClasses.map (·.name))
    (show _ = some [["Entry", "Owner", "Folder"]] by decide +kernel)
  obtain ⟨m, hm, hclasses⟩ := List.map_eq_singleton_iff.mp hnames
  have honly : ∀ t ∈ tasks ((requestRun sizeQuery).hooks.before (requestRun sizeQuery).documents),
      t = ⟨[], "drive.graphql", sizeQuery⟩ := fun t ht => List.mem_singleton.mp ht
  obtain ⟨t, ht, -, -, -, -, hiff⟩ :=
    declaresOnce_request_of_build (g := requestRun sizeQuery) rfl rfl (by decide)
      (fun t ht => honly t ht ▸ by decide) hbuild m (by simp [hm])
  obtain rfl := honly t ht
  refine ⟨output, log, m, hbuild, hm, hclasses, (hiff (by decide)).mpr ⟨by decide, fun d hd => ?_⟩⟩
  have hapart : ∀ d ∈ driveSchema.types,
      d.name ≠ "Request" ∧ ∀ v ∈ sizeQuery.variables, v.name ≠ d.name := by
    decide
  exact hapart d (Input.mem_types_of_reachedFrom hd)

/-- A variable is called like the class of its own type, and both are declared in the request. -/
theorem not_declaresOnce_folderQuery :
    Schema.build "" (documentOf driveSchema) = .ok (requestRun folderQuery).schema ∧
      (folderQuery.variables.map (·.name)).Nodup ∧
      ∃ output log, (requestRun folderQuery).build = .ok (output, log) ∧ ∃ m ∈ output.operations,
        (m.request.holding m.inputClasses).memberNames = ["Entry", "Owner", "Folder", "Folder"] ∧
          ¬ (m.request.holding m.inputClasses).DeclaresOnce := by
  obtain ⟨output, log, hbuild, hnames⟩ := exists_build_of_map (g := requestRun folderQuery)
    (fun o => o.operations.map fun m => (m.request.holding m.inputClasses).memberNames)
    (show _ = some [["Entry", "Owner", "Folder", "Folder"]] by decide +kernel)
  obtain ⟨m, hm, hmembers⟩ := List.map_eq_singleton_iff.mp hnames
  refine ⟨rfl, by decide, output, log, hbuild, m, by simp [hm], hmembers, fun h => ?_⟩
  have hnodup := h.nodup
  rw [hmembers] at hnodup
  exact absurd hnodup (by decide)

/-- Accounts with a name, and with a number that is called like their type. -/
def accountSchema : Schema where
  roots? := none
  directives := []
  types := [oneField "Query" "account" "Account", ⟨none, false, "Account", [], .object []
    [⟨none, "name", [], .named (some "String"), []⟩,
      ⟨none, "Account", [], .named (some "Int"), []⟩]⟩]

def accountQuery (field : String) : Operation :=
  ⟨none, .parsed .query, some "Q", [], [],
    [Selection.plainField "account" (some [Selection.plainField field none])],
    some ("query Q \x7b account \x7b " ++ field ++ " \x7d \x7d")⟩

def accountRun (field : String) : Generator :=
  ⟨accountSchema, [⟨"accounts.graphql", [.operation (accountQuery field)]⟩], {}, .csharp, {}⟩

/-- A field without alias, arguments and directives. -/
def accountNode (name : String) (inner? : Option (List Syntax.Selection)) : Node :=
  .field ⟨none, name, [], [], inner?, 0⟩

def accountFields (field type : String) : List TypedField :=
  [.object (accountNode "account" (some [Selection.plainField field none])) "account"
      (.ok (.named (some "Account")))
    [.leaf (accountNode field none) field (.ok (.named (some type)))]]

theorem exists_build_accountRun (field type : String)
    (hnames : ((accountRun field).build.toOption.map fun built =>
      built.1.operations.map (·.kind)) = some [.query])
    (hmerge : ∃ l, Selection.merge? [] [(accountQuery field).selections] = some l ∧
      l.annotate accountSchema (rootName? accountSchema .query) = accountFields field type) :
    ∃ output log m, (accountRun field).build = .ok (output, log) ∧ output.operations = [m] ∧
      m.kind = .query ∧
      m.response = ofOperation (accountRun field).resolver (accountFields field type) := by
  obtain ⟨output, log, hbuild, hkinds⟩ :=
    exists_build_of_map (g := accountRun field) (fun o => o.operations.map (·.kind)) hnames
  obtain ⟨m, hm, hkind⟩ := List.map_eq_singleton_iff.mp hkinds
  obtain ⟨l, hmerge, htyped⟩ := hmerge
  refine ⟨output, log, m, hbuild, hm, hkind, ?_⟩
  rw [response_of_onlyTask hbuild rfl hmerge (by simp [hm]), hkind]
  exact congrArg _ htyped

theorem named_accountSchema : accountSchema.Named where
  written := by
    intro d hd f hf
    simp only [accountSchema, List.mem_cons, List.not_mem_nil, or_false] at hd
    rcases hd with rfl | rfl <;>
      simp only [oneField, TypeDefinition.fields, List.mem_cons, List.not_mem_nil, or_false] at hf
    · exact hf ▸ .named (by decide)
    · rcases hf with rfl | rfl <;> exact .named (by decide)
  types := by decide
  inputs := by decide
  values := by decide

theorem eq_of_within_accountFields {field type : String} {f : TypedField}
    (h : Selection.Within (accountFields field type) f) :
    f = .object (accountNode "account" (some [Selection.plainField field none])) "account"
        (.ok (.named (some "Account")))
        [.leaf (accountNode field none) field (.ok (.named (some type)))] ∨
      f = .leaf (accountNode field none) field (.ok (.named (some type))) := by
  cases h with
  | here hf => exact .inl (List.mem_singleton.mp hf)
  | inside hmem hchildren hwithin =>
    obtain rfl := List.mem_singleton.mp hmem
    cases hchildren
    cases hwithin with
    | here hf => exact .inr (List.mem_singleton.mp hf)
    | inside hmem hchildren _ =>
      obtain rfl := List.mem_singleton.mp hmem
      cases hchildren

/-- The name of a class for an account begins with a capital letter. -/
theorem head?_of_namedAfter_account {r : Resolver} {node : Node} {children : List TypedField}
    {name : String} (hbase : baseName r "account" (.ok (.named (some "Account"))) = "Account")
    (h : NamedAfter r (.object node "account" (.ok (.named (some "Account"))) children) name) :
    name.toList.head? = some 'A' := by
  simp only [NamedAfter, TypedField.key, TypedField.type, hbase] at h
  rcases h with rfl | rfl | ⟨n, rfl⟩
  · rfl
  · decide
  · rw [String.toList_append]
    rfl

theorem sparesOwnName_accountRun : ∃ output log m,
    (accountRun "name").build = .ok (output, log) ∧ output.operations = [m] ∧
      m.response = ofOperation (accountRun "name").resolver (accountFields "name" "String") ∧
      ∀ d, NestedIn m.response d → d.SparesOwnName := by
  obtain ⟨output, log, m, hbuild, hm, hkind, hresponse⟩ :=
    exists_build_accountRun "name" "String" (by decide +kernel) ⟨_, rfl, rfl⟩
  have honly : ∀ t ∈ tasks ((accountRun "name").hooks.before (accountRun "name").documents),
      t = ⟨[], "accounts.graphql", accountQuery "name"⟩ := fun t ht => List.mem_singleton.mp ht
  have hlabelled : ∀ t ∈ tasks ((accountRun "name").hooks.before (accountRun "name").documents),
      t.Labelled := by
    intro t ht
    rw [honly t ht]
    refine ⟨Selection.labelled_of_text (by decide) (by decide), by decide, fun name hname => ?_⟩
    cases hname
    decide
  obtain ⟨t, ht, -, fields, notes, hfields, -, hclasses⟩ := sparesOwnName_iff_of_build
    (g := accountRun "name") rfl rfl named_accountSchema hlabelled hbuild m (by simp [hm])
  obtain rfl := honly t ht
  have htyped : typedFields accountSchema [] .query (accountQuery "name") =
      .ok (accountFields "name" "String", []) := rfl
  obtain ⟨rfl, -⟩ := Prod.mk.inj (Except.ok.inj (htyped.symm.trans (hkind ▸ hfields)))
  refine ⟨output, log, m, hbuild, hm, hresponse, fun d hd => ?_⟩
  obtain ⟨level, hlevel, -, hnamed, -, -, hspares⟩ := hclasses d hd
  have hcapital : d.name.toList.head? ∈ [some 'R', some 'A'] := by
    rcases hnamed with hname | ⟨f, hf, hchildren, hname⟩
    · rw [hname]
      decide
    · rcases eq_of_within_accountFields hf with rfl | rfl
      · rw [head?_of_namedAfter_account (by decide) hname]
        decide
      · cases hchildren
  refine (hspares fun f hf _ => ?_).mpr fun f hf hkey => ?_
  · rcases eq_of_within_accountFields hf with rfl | rfl <;> decide
  · rw [← hkey] at hcapital
    rcases eq_of_within_accountFields (within_of_levelIn hlevel (.here hf)) with rfl | rfl <;>
      exact absurd hcapital (by decide)

/-- A field is called like the type around it, and becomes a member of the class of that name. -/
theorem not_sparesOwnName_accountRun :
    Schema.build "" (documentOf accountSchema) = .ok (accountRun "Account").schema ∧
      ∃ output log, (accountRun "Account").build = .ok (output, log) ∧ ∃ m ∈ output.operations,
        ∃ d, NestedIn m.response d ∧ d.name = "Account" ∧ d.memberNames = ["Account"] ∧
          ¬ d.SparesOwnName := by
  obtain ⟨output, log, m, hbuild, hm, -, hresponse⟩ :=
    exists_build_accountRun "Account" "Int" (by decide +kernel) ⟨_, rfl, rfl⟩
  have hfree : freeName (accountRun "Account").resolver
      (takenNames (accountRun "Account").resolver className (accountFields "Account" "Int"))
      "account" (.ok (.named (some "Account"))) = "Account" := by
    decide
  have hclass : ∃ d ∈ m.response.classes, d.name = "Account" ∧ d.memberNames = ["Account"] := by
    rw [hresponse, ofOperation, classNamed]
    generalize takenNames _ className _ = used at hfree
    simp only [accountFields, members, classOf, nestedName, hfree]
    exact ⟨_, List.mem_singleton_self _, rfl, by decide⟩
  obtain ⟨d, hd, hname, hmembers⟩ := hclass
  refine ⟨rfl, output, log, hbuild, m, by simp [hm], d, .inside hd (.itself d), hname, hmembers, ?_⟩
  rw [ClassModel.SparesOwnName, hname, hmembers]
  decide

end Generator

end OperationClasses
