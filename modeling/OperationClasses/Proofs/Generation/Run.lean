import OperationClasses.Proofs.Generation.Contribution
import OperationClasses.Proofs.Naming.Meeting
import OperationClasses.Proofs.Naming.Names

/-!
# Runs

A run builds the operations of its documents one after another. Each of them contributes on its
own; what the run has done before shows only in which enumerations were met and in what is noted
about repeated names. So a run is a list of contributions, put together at the end.
-/
namespace OperationClasses

open Syntax

namespace Generator

/-- An operation with the fragments and the path of its document. -/
structure Task where
  fragments : Fragments
  path : String
  operation : Operation

/-- The operations of documents in their order. -/
def tasks (docs : List SourceDocument) : List Task :=
  docs.flatMap fun d => (d.document.filterMap Definition.operation?).map fun o =>
    ⟨Fragments.ofDocument d.document, d.path, o⟩

theorem tasks_append (docs docs' : List SourceDocument) :
    tasks (docs ++ docs') = tasks docs ++ tasks docs' :=
  List.flatMap_append

/-- What the operation contributes. -/
def Task.contribution (r : Resolver) (s : Schema) (t : Task) : Except GenerationError Contribution :=
  Generator.contribution r s t.fragments t.path t.operation

/-- What the operations of documents contribute, each on its own. -/
def contributions (r : Resolver) (s : Schema) (docs : List SourceDocument) :
    Except GenerationError (List Contribution) :=
  (tasks docs).mapM (Task.contribution r s)

theorem contributions_append (r : Resolver) (s : Schema) (docs docs' : List SourceDocument) :
    contributions r s (docs ++ docs') = do
      let cs ← contributions r s docs
      let cs' ← contributions r s docs'
      return cs ++ cs' := by
  rw [contributions, tasks_append, List.mapM_append]
  rfl

theorem foldlM_add (r : Resolver) (s : Schema) (ts : List Task) (p : Progress) :
    ts.foldlM (fun p t => (t.contribution r s).map p.add) p =
      (ts.mapM (Task.contribution r s)).map fun cs => cs.foldl Progress.add p := by
  induction ts generalizing p with
  | nil => rfl
  | cons t ts ih =>
    rw [List.foldlM_cons, List.mapM_cons]
    cases t.contribution r s with
    | error e => rfl
    | ok c =>
      change ts.foldlM _ (p.add c) = _
      rw [ih]
      cases ts.mapM (Task.contribution r s) <;> rfl

/-- A run over documents collects the contributions of their operations. -/
theorem foldlM_addDocument (r : Resolver) (s : Schema) (docs : List SourceDocument) (p : Progress) :
    docs.foldlM (Progress.addDocument r s) p =
      (contributions r s docs).map fun cs => cs.foldl Progress.add p := by
  rw [contributions, ← foldlM_add]
  induction docs generalizing p with
  | nil => rfl
  | cons d docs ih =>
    have htasks : tasks (d :: docs) = (d.document.filterMap Definition.operation?).map
        (fun o => (⟨Fragments.ofDocument d.document, d.path, o⟩ : Task)) ++ tasks docs := rfl
    rw [List.foldlM_cons, htasks, List.foldlM_append, List.foldlM_map]
    exact congrArg _ (funext ih)

/-- The enumerations that an operation's properties spell; an anonymous operation has none. -/
def Contribution.spelled (c : Contribution) : List String :=
  if c.operation?.isSome then c.enums else []

theorem operations_foldl_add (cs : List Contribution) (p : Progress) :
    (cs.foldl Progress.add p).operations = p.operations ++ cs.filterMap (·.operation?) := by
  induction cs generalizing p with
  | nil => simp
  | cons c cs ih =>
    rw [List.foldl_cons, ih]
    cases h : c.operation? <;> simp [Progress.add, h]

theorem enums_foldl_add (cs : List Contribution) (p : Progress) :
    (cs.foldl Progress.add p).enums = meetAll p.enums (cs.flatMap Contribution.spelled) := by
  induction cs generalizing p with
  | nil => rfl
  | cons c cs ih =>
    rw [List.foldl_cons, ih, List.flatMap_cons, meetAll, meetAll, List.foldl_append]
    cases h : c.operation? <;> simp [Progress.add, Contribution.spelled, h]

/-- The names of enumerations in the order in which operations spell them. -/
def namesMet (cs : List Contribution) : List String := meetAll [] (cs.flatMap Contribution.spelled)

/-- The enumerations in the order in which operations spell them. -/
def enumerationsMet (s : Schema) (cs : List Contribution) : List TypeDefinition :=
  (namesMet cs).filterMap s.enum?

theorem mem_enumerationsMet {s : Schema} {cs : List Contribution} {d : TypeDefinition} :
    d ∈ enumerationsMet s cs ↔ d.name ∈ namesMet cs ∧ s.enum? d.name = some d := by
  rw [enumerationsMet, List.mem_filterMap]
  constructor
  · rintro ⟨name, hname, hd⟩
    rw [s.name_of_find? hd]
    exact ⟨hname, hd⟩
  · exact fun ⟨hname, hd⟩ => ⟨d.name, hname, hd⟩

/-- The output that contributions amount to, and what is noted on the way. -/
def outputOf (r : Resolver) (s : Schema) (cs : List Contribution) : Output × List LogEntry :=
  (⟨cs.filterMap (·.operation?), (enumerationsMet s cs).map (enumModel r)⟩,
    (cs.foldl Progress.add {}).log)

/-- A run fails with the first operation that cannot be built; the names of the enumerations that
were met are escaped after all operations. -/
theorem build_eq (g : Generator) :
    g.build = match g.schema.textFault? with
      | some fault => .error (.schema fault)
      | none => do
        let cs ← contributions g.resolver g.schema (g.hooks.before g.documents)
        requireSpelled g.resolver ((enumerationsMet g.schema cs).flatMap escapedInEnum)
        return outputOf g.resolver g.schema cs := by
  unfold build
  cases g.schema.textFault? with
  | some fault => rfl
  | none =>
    have hrun := foldlM_addDocument g.resolver g.schema (g.hooks.before g.documents) {}
    simp only [hrun]
    cases contributions g.resolver g.schema (g.hooks.before g.documents) with
    | error e => rfl
    | ok cs =>
      have hoperations := operations_foldl_add cs {}
      have henums := enums_foldl_add cs {}
      simp only [Except.map, bind, Except.bind, hoperations, henums, outputOf, enumerationsMet,
        namesMet, List.nil_append]

/-- A run succeeds when the schema can be used, all operations can be built and the names of the
enumerations that they meet can be escaped. -/
theorem build_eq_ok_iff {g : Generator} {result : Output × List LogEntry} :
    g.build = .ok result ↔ g.schema.textFault? = none ∧ ∃ cs,
      contributions g.resolver g.schema (g.hooks.before g.documents) = .ok cs ∧
      requireSpelled g.resolver ((enumerationsMet g.schema cs).flatMap escapedInEnum) = .ok () ∧
      outputOf g.resolver g.schema cs = result := by
  rw [build_eq]
  cases g.schema.textFault? with
  | some fault => simp
  | none =>
    simp only [bind_eq_ok, true_and]
    refine exists_congr fun cs => and_congr_right fun _ => ?_
    exact ⟨fun ⟨(), hspelled, h⟩ => ⟨hspelled, Except.ok.inj h⟩,
      fun ⟨hspelled, h⟩ => ⟨(), hspelled, congrArg Except.ok h⟩⟩

theorem build_of_textFault {g : Generator} {fault : Schema.TextFault}
    (h : g.schema.textFault? = some fault) : g.build = .error (.schema fault) := by
  rw [build_eq, h]

/-- What is computed from the output of a run tells that there is one. -/
theorem exists_build_of_map {g : Generator} {α : Type} (f : Output → α) {a : α}
    (h : (g.build.toOption.map fun built => f built.1) = some a) :
    ∃ output log, g.build = .ok (output, log) ∧ f output = a := by
  cases hbuild : g.build with
  | error e => simp [hbuild, Except.toOption] at h
  | ok built => exact ⟨built.1, built.2, rfl, by simpa [hbuild, Except.toOption] using h⟩

end Generator

end OperationClasses
