import OperationClasses.Proofs.Response.Scopes
import OperationClasses.Proofs.Selection.LeadTypes

/-!
# Comments in the generated classes

A class or property is commented only where a type is unknown. When every selected field is
declared by the type it is written under, this happens exactly at the merged levels whose lead
does not declare what the selection sets of other types begin with.
-/
namespace OperationClasses.Response

open Syntax Selection

/-- Neither a class nor what stands in it bears a comment. -/
def Uncommented (c : ClassModel) : Prop :=
  ∀ d, NestedIn c d → d.comment? = none ∧ ∀ p ∈ d.properties, p.comment? = none

theorem type_eq_ok_of_uncommented {r : Resolver} {fields : List TypedField} {f : TypedField}
    (hf : Within fields f) (hfounded : ∀ g, Within fields g → Founded g) {name : String}
    (h : Uncommented (classNamed r name fields)) : ∃ t, f.type = .ok t := by
  induction hf generalizing name with
  | @here fields f hmem =>
    have hmade := forall₂_madeFor (r := r) (fun g hg => hfounded g (.here hg))
      (takenNames r name fields)
    obtain ⟨p, hp, used, rfl, -⟩ := exists_mem_of_forall₂ hmade hmem
    exact (comment?_propertyOf r used (hfounded f (.here hmem))).mp
      ((h _ (.itself _)).2 _ hp)
  | @inside fields children f g hmem hchildren _ ih =>
    have hmade := forall₂_madeFor (r := r) (fun g hg => hfounded g (.here hg))
      (takenNames r name fields)
    obtain ⟨p, -, used, -, hnested⟩ := exists_mem_of_forall₂ hmade hmem
    exact ih (fun g' hg' => hfounded g' (.inside hmem hchildren hg'))
      fun d hd => h d (.inside (hnested children hchildren) hd)

theorem uncommented_of_types {r : Resolver} {c d : ClassModel} (hd : NestedIn c d)
    {fields : List TypedField} {name : String} (hc : c = classNamed r name fields)
    (hfounded : ∀ f, Within fields f → Founded f)
    (h : ∀ f, Within fields f → ∃ t, f.type = .ok t) :
    d.comment? = none ∧ ∀ p ∈ d.properties, p.comment? = none := by
  obtain ⟨level, hlevel, heq, hlevelFounded⟩ := exists_level_of_nestedIn hd hc hfounded
  rw [heq]
  refine ⟨rfl, fun p hp => ?_⟩
  have hmade := forall₂_madeFor (r := r) hlevelFounded (takenNames r d.name level)
  obtain ⟨f, hf, used, rfl, -⟩ := exists_mem_of_forall₂ hmade.flip hp
  exact (comment?_propertyOf r used (hlevelFounded f hf)).mpr
    (h f (within_of_levelIn hlevel (.here hf)))

/-- A class is commented somewhere exactly when a type is unknown somewhere in its fields. -/
theorem uncommented_iff {r : Resolver} {fields : List TypedField} (name : String)
    (hfounded : ∀ f, Within fields f → Founded f) :
    Uncommented (classNamed r name fields) ↔ ∀ f, Within fields f → ∃ t, f.type = .ok t :=
  ⟨fun h _ hf => type_eq_ok_of_uncommented hf hfounded h,
    fun h _ hd => uncommented_of_types hd rfl hfounded h⟩

/-- Where every selected field is declared by the type it is written under, all types are found
and no comment is emitted exactly when, at every merged level, the lead declares the fields that
come first for their keys directly in a selection set of another type. -/
theorem resolved_iff_leadDeclares {s : Schema} (hs : s.Written) (r : Resolver)
    {fragments : Fragments} {o : Operation} {kind : OperationKind}
    (hkind : Generator.kindOf o = .ok kind) (hdefined : Defined fragments o.selections)
    (hcycle : NoFieldCycle fragments o.selections)
    (hdeclared : Declared s fragments (Generator.rootName? s kind) o.selections) :
    ∃ fields log, Generator.typedFields s fragments kind o = .ok (fields, log) ∧
      (∀ document c m, Generator.contribution r s fragments document o = .ok c →
        c.operation? = some m → m.response = ofOperation r fields) ∧
      ((∀ f, Within fields f → ∃ t, f.type = .ok t) ↔
        ∀ lead? owned, MergedBelow s fragments (Generator.rootName? s kind)
          [(Generator.rootName? s kind, o.selections)] lead? owned →
          LeadDeclares s fragments lead? owned) ∧
      (Uncommented (ofOperation r fields) ↔ ∀ f, Within fields f → ∃ t, f.type = .ok t) := by
  have hcycles : ∀ set ∈ [o.selections], NoFieldCycle fragments set := by simpa using hcycle
  obtain ⟨l, hl⟩ := exists_merge? hcycles
  have hfields := Generator.typedFields_of_merge? (s := s) hl kind
  have howned : mergeWithin fragments (depthBound fragments [o.selections])
      ([(Generator.rootName? s kind, o.selections)].map (·.2)) = some l := hl
  refine ⟨_, _, hfields, ?_, ?_, ?_⟩
  · exact fun document c m hc hm => Generator.response_of_contribution hkind hfields hc hm
  · exact forall_within_iff_leadDeclares howned (by simpa using hdefined)
      (by simpa using hdeclared) _
  · exact uncommented_iff _ fun f hf => founded_annotate hs hl hf

/-- Members of a union that declare a field of one name with different types. -/
def nodeSchema : Schema :=
  ⟨none, [], [oneField "Query" "node" "Node", ⟨none, false, "Node", [], .union ["A", "B"]⟩,
    oneField "A" "x" "X", oneField "B" "x" "Y", oneField "X" "p" "String",
    oneField "Y" "q" "Int"]⟩

/-- Both of them under one response key. -/
def nodeQuery : Operation :=
  ⟨none, .parsed .query, some "Nodes", [], [],
    [plainField "node" (some
      [.inline (some "A") [] [plainField "x" (some [plainField "p" none])],
        .inline (some "B") [] [plainField "x" (some [plainField "q" none])]])], none⟩

def nodeResolver : Resolver := ⟨.csharp, [], [], some nodeSchema⟩

theorem defined_nodeQuery : Defined [] nodeQuery.selections :=
  defined_of_spreadNames (by simp [nodeQuery, plainField, spreadNamesAll, spreadNames]) (by simp)

theorem noFieldCycle_nil (selections : List Syntax.Selection) : NoFieldCycle [] selections := by
  intro name f via _ hf
  cases hf

theorem written_nodeSchema : nodeSchema.Written := by
  intro d hd f hf
  simp only [nodeSchema, oneField, List.mem_cons, List.not_mem_nil, or_false] at hd
  rcases hd with rfl | rfl | rfl | rfl | rfl | rfl <;>
    simp only [TypeDefinition.fields, List.mem_singleton, List.not_mem_nil] at hf <;>
    exact hf ▸ .named (by decide)

theorem declared_nodeQuery :
    Declared nodeSchema [] (Generator.rootName? nodeSchema .query) nodeQuery.selections :=
  declared_of_declaredWithin 3 (by decide)

theorem resolved_iff_leadDeclares_nodeQuery :
    ∃ fields log, Generator.typedFields nodeSchema [] .query nodeQuery = .ok (fields, log) ∧
      ((∀ f, Within fields f → ∃ t, f.type = .ok t) ↔
        ∀ lead? owned, MergedBelow nodeSchema [] (some "Query")
          [(some "Query", nodeQuery.selections)] lead? owned →
          LeadDeclares nodeSchema [] lead? owned) := by
  have hkind : Generator.kindOf nodeQuery = .ok .query := rfl
  obtain ⟨fields, log, hfields, -, htypes, -⟩ := resolved_iff_leadDeclares written_nodeSchema
    nodeResolver hkind defined_nodeQuery (noFieldCycle_nil _) declared_nodeQuery
  exact ⟨fields, log, hfields, htypes⟩

/-- The selections of the second member are looked up in the type of the first one's field. -/
theorem unresolved_nodeQuery :
    Defined [] nodeQuery.selections ∧ NoFieldCycle [] nodeQuery.selections ∧
      Declared nodeSchema [] (Generator.rootName? nodeSchema .query) nodeQuery.selections ∧
      ∃ fields log, Generator.typedFields nodeSchema [] .query nodeQuery = .ok (fields, log) ∧
        (∃ f, Within fields f ∧
          f.type = .error ⟨"field", "field 'q' not found in type 'X'"⟩) ∧
        ¬ Uncommented (ofOperation nodeResolver fields) := by
  refine ⟨defined_nodeQuery, noFieldCycle_nil _, declared_nodeQuery, ?_⟩
  obtain ⟨l, hl, hq⟩ : ∃ l, merge? [] [nodeQuery.selections] = some l ∧
      ∃ f, Within (l.annotate nodeSchema (some "Query")) f ∧
        f.type = .error ⟨"field", "field 'q' not found in type 'X'"⟩ :=
    ⟨_, rfl, _, .inside (.head _) rfl (.inside (.head _) rfl (.here (.tail _ (.head _)))), rfl⟩
  refine ⟨_, _, Generator.typedFields_of_merge? hl .query, hq, fun h => ?_⟩
  obtain ⟨f, hf, hunknown⟩ := hq
  obtain ⟨t, ht⟩ := (uncommented_iff _ fun g hg => founded_annotate written_nodeSchema hl hg).mp h f hf
  rw [hunknown] at ht
  cases ht

end OperationClasses.Response
