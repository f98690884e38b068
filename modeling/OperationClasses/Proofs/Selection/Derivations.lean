import OperationClasses.Generation
import OperationClasses.Proofs.Selection.CollectFields

/-!
# Annotating without a bound

The rules by which a selection set is flattened and its fields are typed, with no bound on the
depth. A derivation from these rules is finite, so there is one exactly when annotating ends, and
there is at most one. When no fragment leads back to itself through a field there is one, and the
bounded functions compute what it derives.
-/
namespace OperationClasses.Selection

open Syntax Expansion

/-- What a selection set selects at its own level inside the fragments of a path, read one
selection after another. A fragment on the path is passed over. -/
inductive Flattens (fragments : Fragments) : List String → Option String →
    List Syntax.Selection → List Occurrence → Prop where
  | nil {path : List String} {condition? : Option String} :
      Flattens fragments path condition? [] []
  | field {path : List String} {condition? alias? : Option String} {name : String}
      {args : List Argument} {ds : List Directive} {inner? : Option (List Syntax.Selection)}
      {offset : ℕ} {rest : List Syntax.Selection} {os : List Occurrence} :
      Flattens fragments path condition? rest os →
      Flattens fragments path condition? (.field alias? name args ds inner? offset :: rest)
        (.field ⟨alias?, name, args, ds, inner?, offset⟩ condition? :: os)
  | inline {path : List String} {condition? inner? : Option String} {ds : List Directive}
      {inner rest : List Syntax.Selection} {os os' : List Occurrence} :
      Flattens fragments path (inner?.or condition?) inner os →
      Flattens fragments path condition? rest os' →
      Flattens fragments path condition? (.inline inner? ds inner :: rest) (os ++ os')
  | cut {path : List String} {condition? : Option String} {name : String} {ds : List Directive}
      {offset : ℕ} {rest : List Syntax.Selection} {os : List Occurrence} :
      name ∈ path → Flattens fragments path condition? rest os →
      Flattens fragments path condition? (.spread name ds offset :: rest) os
  | undefinedSpread {path : List String} {condition? : Option String} {name : String}
      {ds : List Directive} {offset : ℕ} {rest : List Syntax.Selection} {os : List Occurrence} :
      name ∉ path → fragments.find? name = none → Flattens fragments path condition? rest os →
      Flattens fragments path condition? (.spread name ds offset :: rest)
        (.undefinedSpread ⟨name, ds, offset⟩ :: os)
  | spread {path : List String} {condition? : Option String} {name : String}
      {ds : List Directive} {offset : ℕ} {f : Fragment} {rest : List Syntax.Selection}
      {os os' : List Occurrence} :
      name ∉ path → fragments.find? name = some f →
      Flattens fragments (name :: path) (some f.condition) f.selections os →
      Flattens fragments path condition? rest os' →
      Flattens fragments path condition? (.spread name ds offset :: rest) (os ++ os')

/-- The occurrences of several selection sets, each on an empty path. -/
def FlattensAll (fragments : Fragments) (sets : List (List Syntax.Selection))
    (os : List Occurrence) : Prop :=
  ∃ parts, List.Forall₂ (Flattens fragments [] none) sets parts ∧ os = parts.flatten

/-- The typed fields of groups, one group after another. The selection sets of a group are merged
and their fields typed before the next group is looked at. -/
inductive Annotates (s : Schema) (fragments : Fragments) : Option String →
    List Group → List TypedField → Prop where
  | nil {parent? : Option String} : Annotates s fragments parent? [] []
  | undefinedSpread {parent? : Option String} {node : SpreadNode} {g : Group} {gs : List Group}
      {fields : List TypedField} :
      g.origin = .undefinedSpread node → Annotates s fragments parent? gs fields →
      Annotates s fragments parent? (g :: gs) (.leaf (.fragmentSpread node) g.key
        (.error (FieldFault.undefinedFragment node.name).unresolved) :: fields)
  | leaf {parent? condition? : Option String} {node : FieldNode} {g : Group} {gs : List Group}
      {fields : List TypedField} :
      g.origin = .field node condition? → g.sets = [] → Annotates s fragments parent? gs fields →
      Annotates s fragments parent? (g :: gs) (.leaf (.field node) g.key
        (accounted (fieldType s (condition?.or parent?) node.name)) :: fields)
  | object {parent? condition? : Option String} {node : FieldNode} {g : Group} {gs : List Group}
      {os : List Occurrence} {children fields : List TypedField} :
      g.origin = .field node condition? → g.sets ≠ [] → FlattensAll fragments g.sets os →
      Annotates s fragments (childParent? (fieldType s (condition?.or parent?) node.name))
        (group os) children →
      Annotates s fragments parent? gs fields →
      Annotates s fragments parent? (g :: gs) (.object (.field node) g.key
        (accounted (fieldType s (condition?.or parent?) node.name)) children :: fields)

/-- The typed fields of an operation: those of its selection set under its root type. -/
def AnnotatesOperation (s : Schema) (fragments : Fragments) (kind : OperationKind) (o : Operation)
    (fields : List TypedField) : Prop :=
  ∃ os, Flattens fragments [] none o.selections os ∧
    Annotates s fragments ((s.root? kind).map (·.name)) (group os) fields

theorem Flattens.unique {fragments : Fragments} {path : List String} {condition? : Option String}
    {selections : List Syntax.Selection} {os os' : List Occurrence}
    (h : Flattens fragments path condition? selections os)
    (h' : Flattens fragments path condition? selections os') : os = os' := by
  induction h generalizing os' with
  | nil => cases h'; rfl
  | field _ ih =>
    cases h' with
    | field h' => rw [ih h']
  | inline _ _ ihinner ih =>
    cases h' with
    | inline hinner h' => rw [ihinner hinner, ih h']
  | cut hpath _ ih =>
    cases h' with
    | cut _ h' => exact ih h'
    | undefinedSpread hnot => exact absurd hpath hnot
    | spread hnot => exact absurd hpath hnot
  | undefinedSpread hnot hf _ ih =>
    cases h' with
    | cut hpath => exact absurd hpath hnot
    | undefinedSpread _ _ h' => rw [ih h']
    | spread _ hf' => cases hf.symm.trans hf'
  | spread hnot hf _ _ ihinner ih =>
    cases h' with
    | cut hpath => exact absurd hpath hnot
    | undefinedSpread _ hf' => cases hf.symm.trans hf'
    | spread _ hf' hinner h' =>
      cases hf.symm.trans hf'
      rw [ihinner hinner, ih h']

theorem FlattensAll.unique {fragments : Fragments} {sets : List (List Syntax.Selection)}
    {os os' : List Occurrence} (h : FlattensAll fragments sets os)
    (h' : FlattensAll fragments sets os') : os = os' := by
  obtain ⟨parts, hparts, rfl⟩ := h
  obtain ⟨parts', hparts', rfl⟩ := h'
  have hunique : Relator.RightUnique (Flattens fragments [] none) := fun _ _ _ => Flattens.unique
  rw [hunique.forall₂ hparts hparts']

theorem Annotates.unique {s : Schema} {fragments : Fragments} {parent? : Option String}
    {gs : List Group} {fields fields' : List TypedField}
    (h : Annotates s fragments parent? gs fields)
    (h' : Annotates s fragments parent? gs fields') : fields = fields' := by
  induction h generalizing fields' with
  | nil => cases h'; rfl
  | undefinedSpread horigin _ ih =>
    cases h' with
    | undefinedSpread horigin' h' =>
      cases horigin.symm.trans horigin'
      rw [ih h']
    | leaf horigin' => cases horigin.symm.trans horigin'
    | object horigin' => cases horigin.symm.trans horigin'
  | leaf horigin hsets _ ih =>
    cases h' with
    | undefinedSpread horigin' => cases horigin.symm.trans horigin'
    | leaf horigin' _ h' =>
      cases horigin.symm.trans horigin'
      rw [ih h']
    | object _ hsets' => exact absurd hsets hsets'
  | object horigin hsets hos _ _ ihchildren ih =>
    cases h' with
    | undefinedSpread horigin' => cases horigin.symm.trans horigin'
    | leaf _ hsets' => exact absurd hsets' hsets
    | object horigin' _ hos' hchildren h' =>
      cases horigin.symm.trans horigin'
      cases hos.unique hos'
      rw [ihchildren hchildren, ih h']

/-- What spreads expand to goes before what the rules give for the selections that follow. -/
def FlattensSpreads (fragments : Fragments) (path : List String)
    (expand : SpreadNode → List Occurrence) : Prop :=
  ∀ {condition? : Option String} {rest : List Syntax.Selection} {os : List Occurrence}
    (name : String) (ds : List Directive) (offset : ℕ),
    Flattens fragments path condition? rest os →
    Flattens fragments path condition? (.spread name ds offset :: rest)
      (expand ⟨name, ds, offset⟩ ++ os)

section

variable {fragments : Fragments} {path : List String} {expand : SpreadNode → List Occurrence}

mutual

theorem flattens_flattenOne (hexpand : FlattensSpreads fragments path expand)
    {condition? : Option String} {rest : List Syntax.Selection} {os : List Occurrence}
    (s : Syntax.Selection) (h : Flattens fragments path condition? rest os) :
    Flattens fragments path condition? (s :: rest) (flattenOne expand condition? s ++ os) := by
  cases s with
  | field alias? name args ds inner? offset => simpa [flattenOne] using Flattens.field h
  | inline inner? ds inner =>
    simpa [flattenOne] using
      Flattens.inline (flattens_flattenAll hexpand (inner?.or condition?) inner) h
  | spread name ds offset => simpa [flattenOne] using hexpand name ds offset h

theorem flattens_flattenAll (hexpand : FlattensSpreads fragments path expand)
    (condition? : Option String) (selections : List Syntax.Selection) :
    Flattens fragments path condition? selections (flattenAll expand condition? selections) := by
  cases selections with
  | nil => exact .nil
  | cons s rest =>
    rw [flattenAll]
    exact flattens_flattenOne hexpand s (flattens_flattenAll hexpand condition? rest)

end

end

/-- Where there is room for the fragments that can still be opened, the bound does not show. -/
theorem flattens_flattenWithin {fragments : Fragments} {fuel : ℕ} {path : List String}
    (hroom : Room fragments.names fuel path) (condition? : Option String)
    (selections : List Syntax.Selection) :
    Flattens fragments path condition? selections
      (flattenWithin fragments fuel path condition? selections) := by
  induction fuel generalizing path condition? selections with
  | zero => exact absurd hroom.pos (by simp)
  | succ fuel ih =>
    rw [flattenWithin]
    refine flattens_flattenAll (fun {condition? rest os} name ds offset h => ?_) condition? selections
    by_cases hpath : name ∈ path
    · have hcut : Flattens fragments path condition? (.spread name ds offset :: rest) os :=
        .cut hpath h
      simpa [hpath] using hcut
    · cases hf : fragments.find? name with
      | none =>
        have hundefined : Flattens fragments path condition? (.spread name ds offset :: rest) _ :=
          .undefinedSpread hpath hf h
        simpa [hpath] using hundefined
      | some f =>
        have hinside := hroom.enter (Fragments.mem_names_of_find? hf) hpath
        simpa [hpath] using Flattens.spread hpath hf (ih hinside (some f.condition) f.selections) h

theorem flattens_flatten (fragments : Fragments) (selections : List Syntax.Selection) :
    Flattens fragments [] none selections (flatten fragments selections) :=
  flattens_flattenWithin (.initial _) none selections

theorem flattensAll_levelOccurrences (fragments : Fragments) (sets : List (List Syntax.Selection)) :
    FlattensAll fragments sets (levelOccurrences fragments sets) := by
  refine ⟨sets.map (flatten fragments), ?_, List.flatMap_def⟩
  rw [List.forall₂_map_right_iff, List.forall₂_same]
  exact fun set _ => flattens_flatten fragments set

/-- A merged level is typed as the rules say. -/
theorem annotates_of_mergeWithin {s : Schema} {fragments : Fragments} {fuel : ℕ}
    {sets : List (List Syntax.Selection)} {l : Level}
    (h : mergeWithin fragments fuel sets = some l) (parent? : Option String) :
    Annotates s fragments parent? (group (levelOccurrences fragments sets))
      (l.annotate s parent?) := by
  induction fuel generalizing sets l parent? with
  | zero => simp [mergeWithin] at h
  | succ fuel ih =>
    obtain ⟨-, hmembers⟩ := mergeWithin_succ_iff.mp h
    rw [group_eq, Level.annotate]
    generalize keys (levelOccurrences fragments sets) = ks at hmembers
    generalize l.members = ms at hmembers
    induction hmembers with
    | nil => simpa [annotateAll] using Annotates.nil
    | @cons key m ks ms hm _ ihm =>
      rw [List.map_cons, annotateAll]
      have hkey : (groupOf (levelOccurrences fragments sets) key).origin.key =
          (groupOf (levelOccurrences fragments sets) key).key := key_origin_groupOf _ key
      unfold member at hm
      split at hm
      · next node horigin =>
        cases hm
        rw [horigin, Origin.key] at hkey
        rw [annotate]
        nth_rewrite 1 [hkey]
        exact .undefinedSpread horigin ihm
      · next node condition? horigin =>
        rw [horigin, Origin.key] at hkey
        split at hm
        · next hnil =>
          cases hm
          rw [annotate, hkey]
          exact .leaf horigin (List.isEmpty_iff.mp hnil) ihm
        · next hne =>
          obtain ⟨inner, hinner, rfl⟩ := Option.map_eq_some_iff.mp hm
          rw [annotate, hkey]
          refine .object horigin (fun hnil => hne (List.isEmpty_iff.mpr hnil))
            (flattensAll_levelOccurrences fragments _) ?_ ihm
          exact ih hinner (childParent? (fieldType s (condition?.or parent?) node.name))

/-- Typing the fields of an operation ends when no fragment that it uses leads back to itself
through a field, whatever circles the fragments form at one level and however often they are
spread. -/
theorem existsUnique_annotatesOperation (s : Schema) {fragments : Fragments} (kind : OperationKind)
    {o : Operation} (hcycle : NoFieldCycle fragments o.selections) :
    ∃ fields log, Generator.typedFields s fragments kind o = .ok (fields, log) ∧
      AnnotatesOperation s fragments kind o fields ∧
      ∀ fields', AnnotatesOperation s fragments kind o fields' → fields' = fields := by
  have hcycles : ∀ set ∈ [o.selections], NoFieldCycle fragments set := by simpa using hcycle
  obtain ⟨l, hl⟩ := exists_merge? hcycles
  have hlevel : levelOccurrences fragments [o.selections] = flatten fragments o.selections := by
    simp [levelOccurrences]
  have hannotates := annotates_of_mergeWithin (s := s) hl ((s.root? kind).map (·.name))
  rw [hlevel] at hannotates
  refine ⟨l.annotate s ((s.root? kind).map (·.name)),
    rootNotes s kind ++ l.notes s ((s.root? kind).map (·.name)), ?_,
    ⟨_, flattens_flatten fragments o.selections, hannotates⟩, ?_⟩
  · rw [Generator.typedFields, Generator.typedSelections, hl]
    rfl
  · rintro fields' ⟨os, hos, hfields'⟩
    rw [hos.unique (flattens_flatten fragments o.selections)] at hfields'
    exact hfields'.unique hannotates

/-- An operation that spreads a circle of fragments, one of which opens another in a field. -/
def circleOperation : Operation :=
  ⟨none, .parsed .query, none, [], [], circleSpreads, none⟩

theorem existsUnique_annotatesOperation_circle :
    NoFieldCycle circle circleOperation.selections ∧
      ∃ fields log,
        Generator.typedFields ⟨none, [], []⟩ circle .query circleOperation = .ok (fields, log) ∧
        AnnotatesOperation ⟨none, [], []⟩ circle .query circleOperation fields ∧
        ∀ fields', AnnotatesOperation ⟨none, [], []⟩ circle .query circleOperation fields' →
          fields' = fields :=
  ⟨noFieldCycle_circle, existsUnique_annotatesOperation _ .query noFieldCycle_circle⟩

end OperationClasses.Selection
