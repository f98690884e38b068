import Mathlib.Data.List.ReduceOption
import OperationClasses.Proofs.CommandLine.Outcome
import OperationClasses.Proofs.Generation.MemberNames
import OperationClasses.Proofs.Generation.ReadNames

/-!
# What is loaded

A schema is built from the texts of its files, one behind the other, and every document is what the
text of its file says. So the generator of a session is one over texts, and the identifiers in what
it makes are as legal as the names in these texts allow.
-/
namespace OperationClasses

open Syntax

namespace Loading

variable {t : FileTree} {here : Place} {path : String}

theorem schemaOfText_eq_ok_iff {text : String} {s : Schema} :
    (schemaOfText path text).result = .ok s ↔
      ∃ doc, Document.parse text = .ok doc ∧ Schema.build text doc = .ok s := by
  unfold schemaOfText
  cases Document.parse text with
  | error e => simp
  | ok doc => cases h : Schema.build text doc <;> simp [h]

/-- A schema is made of the texts of all files, of which there is one at least. -/
theorem schema_eq_ok_iff {s : Schema} :
    (schema t here path).result = .ok s ↔
      ∃ files texts, t.collect here path schemaEndings = .ok files ∧ files ≠ [] ∧
        files.mapM (readText t here) = .ok texts ∧
        (schemaOfText path ("\n\n".intercalate texts)).result = .ok s := by
  unfold schema
  cases t.collect here path schemaEndings with
  | error f => simp
  | ok files =>
    cases files with
    | nil => simp
    | cons file files => cases h : (file :: files).mapM (readText t here) <;> simp [h]

/-- A document is loaded unless nothing in it can be executed. -/
theorem document_eq_ok_iff {d? : Option SourceDocument} :
    (document t here path).result = .ok d? ↔
      ∃ text doc, readText t here path = .ok text ∧ Document.parse text = .ok doc ∧
        (if doc.any Definition.isExecutable then some ⟨path, doc⟩ else none) = d? := by
  unfold document
  cases readText t here path with
  | error e => simp
  | ok text =>
    cases hdoc : Document.parse text with
    | error e => simp [hdoc]
    | ok doc =>
      simp only [Except.ok.injEq, exists_and_left, exists_eq_left', hdoc]
      split <;> simp

/-- Documents are loaded in the order of their paths. -/
theorem result_documentsAt (paths : List String) :
    (documentsAt t here paths).result =
      (paths.mapM fun path => (document t here path).result).map List.reduceOption := by
  induction paths with
  | nil => rfl
  | cons path rest ih =>
    rw [documentsAt, List.mapM_cons]
    cases hfirst : (document t here path).result with
    | error e => rfl
    | ok d? =>
      simp only [ih]
      cases rest.mapM fun path => (document t here path).result with
      | error e => rfl
      | ok ds => cases d? <;> rfl

/-- Every loaded document is what the text of a file says, and something in it can be executed. -/
theorem exists_text_of_mem_documents {docs : List SourceDocument}
    (h : (documents t here path).result = .ok docs) {d : SourceDocument} (hd : d ∈ docs) :
    ∃ files text, t.collect here path documentEndings = .ok files ∧ d.path ∈ files ∧
      readText t here d.path = .ok text ∧ Document.parse text = .ok d.document ∧
      d.document.any Definition.isExecutable := by
  unfold documents at h
  split at h
  · cases h
  · next files hfiles =>
    rw [result_documentsAt, map_eq_ok] at h
    obtain ⟨ds, hds, rfl⟩ := h
    obtain ⟨file, hfile, hdocument⟩ := Selection.exists_mem_of_forall₂ (mapM_eq_ok_iff.mp hds).flip
      (List.reduceOption_mem_iff.mp hd)
    obtain ⟨text, doc, htext, hdoc, hsome⟩ := document_eq_ok_iff.mp hdocument
    split at hsome
    · next hany =>
      obtain rfl := Option.some.inj hsome
      exact ⟨files, text, hfiles, hfile, htext, hdoc, hany⟩
    · cases hsome

end Loading

namespace CommandLine

/-- The generator of a session is one over texts. -/
theorem Reads.isRead {t : FileTree} {s : Surroundings} {o : Options} {path : String}
    {g : Generator} {template? : Option String} (h : Reads t s o path g template?) : g.IsRead := by
  constructor
  · obtain ⟨files, texts, -, -, -, hschema⟩ := Loading.schema_eq_ok_iff.mp h.schema
    obtain ⟨doc, hdoc, hbuild⟩ := Loading.schemaOfText_eq_ok_iff.mp hschema
    exact ⟨_, doc, hdoc, hbuild⟩
  · intro d hd
    obtain ⟨files, text, -, -, -, hdoc, -⟩ := Loading.exists_text_of_mem_documents h.documents hd
    exact ⟨text, hdoc⟩

/-- The command knows the built-in targets only. -/
theorem Reads.isBuiltIn {t : FileTree} {s : Surroundings} {o : Options} {path : String}
    {g : Generator} {template? : Option String} (h : Reads t s o path g template?) :
    Response.IsBuiltIn g.target := by
  obtain ⟨before, after, hentries, -⟩ := List.lookup_eq_some_iff.mp h.target
  have hmem : (g.config.target, g.target) ∈ TargetRegistry.builtIn.entries := by simp [hentries]
  simp only [TargetRegistry.builtIn, List.mem_cons, Prod.mk.injEq, List.not_mem_nil, or_false]
    at hmem
  exact hmem.imp And.right And.right

/-- Every text that is made is that of an output for a built-in target, by a generator that meets
names wherever it makes identifiers of them, and written types in requests. -/
theorem exists_labelled_of_makes {s : Surroundings} {o : Options} {text : String}
    (h : Makes s o text) :
    ∃ (g : Generator) (template? : Option String) (output : Output) (log : List LogEntry),
      g.build = .ok (output, log) ∧ g.render template? output = .ok text ∧
      Response.IsBuiltIn g.target ∧ g.schema.Named ∧
      ∀ t ∈ Generator.tasks (g.hooks.before g.documents),
        t.Labelled ∧ ∀ v ∈ t.operation.variables, v.type.Written := by
  obtain ⟨path, g, template?, -, hreads, htext⟩ := h
  obtain ⟨⟨output, log⟩, hbuild, hrender⟩ := bind_eq_ok.mp htext
  have hread := hreads.isRead
  exact ⟨g, template?, output, log, hbuild, hrender, hreads.isBuiltIn, hread.named,
    fun t ht => ⟨hread.labelled ht, hread.written_variables ht⟩⟩

/-- Unless other words are reserved than the target's, the identifiers in a text that is made are
legal as the names they stand for say. In C# a class of an answer has a member of its own name
exactly if a response key of its level is that name, or a nested class with an at sign more or
less. In Python no annotation in a request reads a name that the request binds exactly if no
variable is called like a name that is read, or like a twin of one. -/
theorem exists_output_of_makes {s : Surroundings} {o : Options} {text : String}
    (h : Makes s o text) :
    ∃ (g : Generator) (template? : Option String) (output : Output) (log : List LogEntry),
      g.build = .ok (output, log) ∧ g.render template? output = .ok text ∧
      (g.config.reservedWords? = none →
        (∀ e ∈ output.enums, ∃ d ∈ g.schema.types, e = Generator.enumModel g.resolver d ∧
          (g.target.Accepts e.name ↔ g.target.Keeps d.name) ∧
          ∀ v ∈ e.members, (g.target.Accepts v.name ↔ g.target.Keeps v.value)) ∧
        ∀ m ∈ output.operations,
          (∀ c ∈ m.inputClasses, ∃ d ∈ g.schema.types, c = Input.classOf g.resolver d ∧
            (g.target.Accepts c.name ↔ g.target.Keeps d.name)) ∧
          (∀ c, Response.NestedIn m.response c ∨ c ∈ m.request :: m.inputClasses →
            ∀ p ∈ c.properties,
              (g.target.AcceptsProperty p.name ↔
                (g.target = .python → isName (stem p.graphqlName)))) ∧
          (g.target = .csharp → ∀ d, Response.NestedIn m.response d → ∃ level,
            d = Response.classNamed g.resolver d.name level ∧
            (d.SparesOwnName ↔ (∀ f ∈ level, f.key ≠ csharpName d.name) ∧
              ∀ c ∈ d.classes, csharpName c.name ≠ csharpName d.name)) ∧
          (g.target = .python → g.config.typeOverrides? = none →
            ∃ t ∈ Generator.tasks (g.hooks.before g.documents),
              t.label? = some (m.documentPath, m.kind, m.operationName) ∧
              (Unshadowed m.request.properties m.request ↔
                ∀ v ∈ t.operation.variables, ∀ n ∈ namesRead g.resolver v.type,
                  ∀ w ∈ t.operation.variables, w.name ≠ n ∧ ¬ Twins w.name n))) := by
  obtain ⟨g, template?, output, log, hbuild, hrender, htarget, hschema, htasks⟩ :=
    exists_labelled_of_makes h
  refine ⟨g, template?, output, log, hbuild, hrender, fun hwords => ?_⟩
  have hr := Generator.isDefault_resolver htarget hwords
  have hlabelled : ∀ t ∈ Generator.tasks (g.hooks.before g.documents), t.Labelled :=
    fun t ht => (htasks t ht).1
  refine ⟨Generator.accepts_enums_of_build hr hschema hbuild, fun m hm => ?_⟩
  obtain ⟨t, ht, hlabel, l, hl, hresponse, hrequest, -⟩ := Generator.exists_task_of_build hbuild hm
  refine ⟨Generator.accepts_inputClasses_of_build hr hschema hbuild hm, fun c hc =>
    Generator.acceptsProperty_iff_of_build hr hschema hlabelled hbuild hm hc,
    fun hcsharp d hd => ?_, fun hpython hoverrides => ⟨t, ht, hlabel, ?_⟩⟩
  · rw [hresponse] at hd
    obtain ⟨level, -, heq, -, hspares, -⟩ := Response.sparesOwnName_iff_of_nestedIn hr hcsharp
      (fun f => Generator.regular_annotate hschema (hlabelled t ht) hl) hd
    exact ⟨level, heq, hspares⟩
  · rw [hrequest]
    exact Input.unshadowed_request
      (Generator.isDefaultPython_resolver hpython hoverrides hwords) (htasks t ht).2

end CommandLine

end OperationClasses
