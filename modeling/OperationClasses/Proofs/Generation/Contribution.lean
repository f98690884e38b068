import OperationClasses.Generation
import OperationClasses.Proofs.Result

/-!
# What an operation contributes

Building the classes of a named operation takes its kind, its typed fields, the classes of its
variables and its text; when each of these is there and all names can be escaped, so is the
contribution, and it holds nothing else.
-/
namespace OperationClasses.Generator

open Syntax

theorem requireSpelled_eq_ok {r : Resolver} {names : List String} :
    requireSpelled r names = .ok () ↔ ∀ name ∈ names, r.escapeFault? name = none := by
  unfold requireSpelled Resolver.firstFault?
  cases h : names.findSome? r.escapeFault? with
  | none => simpa using List.findSome?_eq_none_iff.mp h
  | some fault =>
    obtain ⟨name, hname, hfault⟩ := List.exists_of_findSome?_eq_some h
    simp only [reduceCtorEq, false_iff]
    intro hnone
    rw [hnone name hname] at hfault
    cases hfault

theorem kindOf_eq_ok_iff {o : Operation} {kind : OperationKind} :
    kindOf o = .ok kind ↔ o.kind.kind? = some kind := by
  unfold kindOf
  cases hkind : o.kind with
  | parsed k => simp [ClaimedKind.kind?]
  | given v => cases h : (ClaimedKind.given v).kind? <;> simp

theorem payload_of_textFault? {o : Operation} (h : o.textFault? = none) (fragments : Fragments) :
    payload o fragments = .ok (Payload.text o fragments) := by
  simp [payload, h]

theorem requireInputs_eq_ok {r : Resolver} {s : Schema} {vs : List VariableDefinition} :
    requireInputs r s vs = .ok () ↔ Input.stop? vs = none ∧
      requireSpelled r (Input.expandVariables r s vs {}).escaped = .ok () := by
  unfold requireInputs
  cases Input.stop? vs with
  | none => simp
  | some stop =>
    refine ⟨fun h => ?_, fun h => (nomatch h.1)⟩
    obtain ⟨_, -, h⟩ := bind_eq_ok.mp h
    cases h

/-- The classes and the text of a named operation. -/
def operationModel (r : Resolver) (s : Schema) (path : String) (o : Operation)
    (kind : OperationKind) (name source : String) (fields : List TypedField) : OperationModel where
  name := OperationModel.nameOf kind name
  kind := kind
  operationName := name
  source := source
  response := Response.ofOperation r fields
  request := Input.request r o.variables
  inputClasses := (Input.expandVariables r s o.variables {}).classes
  documentPath := path

/-- What a named operation contributes. -/
def namedContribution (r : Resolver) (s : Schema) (path : String) (o : Operation)
    (kind : OperationKind) (name source : String) (fields : List TypedField)
    (log : List LogEntry) : Contribution where
  operation? := some (operationModel r s path o kind name source fields)
  enums := Response.enumsMetAll r fields ++ (Input.expandVariables r s o.variables {}).enums
  log := log

/-- An anonymous operation contributes nothing but a note; a named one contributes the classes of
its typed fields and of its variables. -/
theorem contribution_eq_ok_iff {r : Resolver} {s : Schema} {fragments : Fragments}
    {path : String} {o : Operation} {c : Contribution} :
    contribution r s fragments path o = .ok c ↔ ∃ kind, kindOf o = .ok kind ∧
      (o.name? = none ∧ c = { log := [.anonymousOperation kind path] } ∨
        ∃ name fields log source, o.name? = some name ∧
          typedFields s fragments kind o = .ok (fields, log) ∧
          requireSpelled r (Response.escapedInClass r fields) = .ok () ∧
          requireInputs r s o.variables = .ok () ∧
          payload o fragments = .ok source ∧
          c = namedContribution r s path o kind name source fields log) := by
  unfold contribution
  simp only [bind_eq_ok]
  refine exists_congr fun kind => and_congr_right fun _ => ?_
  cases hname : o.name? with
  | none =>
    constructor
    · exact fun h => .inl ⟨rfl, (Except.ok.inj h).symm⟩
    · rintro (⟨-, rfl⟩ | ⟨_, _, _, _, ⟨⟩, -⟩)
      rfl
  | some name =>
    simp only [bind_eq_ok]
    constructor
    · rintro ⟨⟨fields, log⟩, hfields, ⟨⟩, hclass, ⟨⟩, hinput, source, hsource, h⟩
      exact .inr ⟨name, fields, log, source, rfl, hfields, hclass, hinput, hsource,
        (Except.ok.inj h).symm⟩
    · rintro (⟨⟨⟩, -⟩ | ⟨name, fields, log, source, ⟨⟩, hfields, hclass, hinput, hsource, rfl⟩)
      exact ⟨(fields, log), hfields, (), hclass, (), hinput, source, hsource, rfl⟩

/-- The classes of an operation are those of its typed fields and of its variables. -/
theorem contribution_operation_iff {r : Resolver} {s : Schema} {fragments : Fragments}
    {path : String} {o : Operation} {m : OperationModel} :
    (∃ c, contribution r s fragments path o = .ok c ∧ c.operation? = some m) ↔
      ∃ kind name fields log source,
        kindOf o = .ok kind ∧ o.name? = some name ∧
        typedFields s fragments kind o = .ok (fields, log) ∧
        requireSpelled r (Response.escapedInClass r fields) = .ok () ∧
        requireInputs r s o.variables = .ok () ∧
        payload o fragments = .ok source ∧
        m = operationModel r s path o kind name source fields := by
  simp only [contribution_eq_ok_iff]
  constructor
  · rintro ⟨c, ⟨kind, hkind, ⟨-, rfl⟩ | ⟨name, fields, log, source, hname, hfields, hclass, hinput,
      hsource, rfl⟩⟩, hm⟩
    · cases hm
    · exact ⟨kind, name, fields, log, source, hkind, hname, hfields, hclass, hinput, hsource,
        (Option.some.inj hm).symm⟩
  · rintro ⟨kind, name, fields, log, source, hkind, hname, hfields, hclass, hinput, hsource, rfl⟩
    exact ⟨_, ⟨kind, hkind, .inr ⟨name, fields, log, source, hname, hfields, hclass, hinput,
      hsource, rfl⟩⟩, rfl⟩

/-- The type of an operation's own selection set. -/
def rootName? (s : Schema) (kind : OperationKind) : Option String := (s.root? kind).map (·.name)

theorem typedFields_of_merge? {s : Schema} {fragments : Fragments} {o : Operation}
    {l : Selection.Level} (h : Selection.merge? fragments [o.selections] = some l)
    (kind : OperationKind) :
    typedFields s fragments kind o = .ok (l.annotate s (rootName? s kind),
      Selection.rootNotes s kind ++ l.notes s (rootName? s kind)) := by
  simp [typedFields, typedSelections, h, Except.map, rootName?]

/-- The emitted response is the class of the typed fields. -/
theorem response_of_contribution {r : Resolver} {s : Schema} {fragments : Fragments}
    {path : String} {o : Operation} {kind : OperationKind} {fields : List TypedField}
    {log : List LogEntry} (hkind : kindOf o = .ok kind)
    (hfields : typedFields s fragments kind o = .ok (fields, log)) {c : Contribution}
    {m : OperationModel} (hc : contribution r s fragments path o = .ok c)
    (hm : c.operation? = some m) : m.response = Response.ofOperation r fields := by
  obtain ⟨kind', _, fields', _, _, hkind', -, hfields', -, -, -, rfl⟩ :=
    contribution_operation_iff.mp ⟨c, hc, hm⟩
  obtain rfl : kind' = kind := Except.ok.inj (hkind'.symm.trans hkind)
  obtain ⟨rfl, -⟩ := Prod.mk.inj (Except.ok.inj (hfields'.symm.trans hfields))
  rfl

end OperationClasses.Generator
