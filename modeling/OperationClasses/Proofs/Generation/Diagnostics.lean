import OperationClasses.Proofs.Generation.Concatenation
import OperationClasses.Proofs.Response.Comments
import OperationClasses.Proofs.Response.Keys

/-!
# Diagnostics

What has no type is said where it stands: the property of an undefined spread, or of a field that
its parent type does not have, is commented with the reason, may be missing and has a type that
admits anything. Everything else has the type it was declared with and no comment, and no class is
ever commented. A missing type stops nothing: the siblings of the field and its own selections are
emitted as they would be otherwise, the latter under an unknown parent.
-/
namespace OperationClasses

open Syntax

namespace Selection

variable {s : Schema} {fragments : Fragments} {lead? : Option String}

/-- Why a field has no type under a parent. -/
inductive Fails (s : Schema) (name : String) : Option String → FieldFault → Prop where
  | unknownParent : name ≠ "__typename" → Fails s name none (.unknownParent name)
  | notComposite {parent : String} : name ≠ "__typename" →
      s.object? parent = none → s.interface? parent = none →
      Fails s name (some parent) (.notComposite parent)
  | undeclared {parent : String} {d : TypeDefinition} : name ≠ "__typename" →
      (s.object? parent).or (s.interface? parent) = some d → (∀ f ∈ d.fields, f.name ≠ name) →
      Fails s name (some parent) (.undeclared name parent)

theorem fieldType_eq_error_iff {parent? : Option String} {name : String} {fault : FieldFault} :
    fieldType s parent? name = .error fault ↔ Fails s name parent? fault := by
  unfold fieldType
  constructor
  · intro h
    split at h
    · cases h
    · next hname =>
      split at h
      · cases h
        exact .unknownParent hname
      · next parent =>
        split at h
        · next hfields =>
          cases h
          have hnone : s.object? parent = none ∧ s.interface? parent = none := by
            simpa [Schema.fields?, Option.or_eq_none_iff] using hfields
          exact .notComposite hname hnone.1 hnone.2
        · next fs hfields =>
          obtain ⟨d, hd, rfl⟩ := Option.map_eq_some_iff.mp hfields
          split at h
          · next hnone =>
            cases h
            exact .undeclared hname hd fun f hf => by simpa using List.find?_eq_none.mp hnone f hf
          · cases h
  · rintro (⟨hname⟩ | ⟨hname, hobject, hinterface⟩ | ⟨hname, hd, hnone⟩)
    · simp [hname]
    · simp [hname, Schema.fields?, hobject, hinterface]
    · have hfind : ∀ fs : List FieldDefinition, (∀ f ∈ fs, f.name ≠ name) →
          fs.find? (·.name = name) = none := by simp
      simp [hname, Schema.fields?, hd, hfind _ hnone]

/-- Why what stands for a key has no type, when its level is read under a lead. -/
inductive Untyped (s : Schema) (lead? : Option String) : Occurrence → FieldFault → Prop where
  | field {node : FieldNode} {condition? : Option String} {fault : FieldFault} :
      Fails s node.name (condition?.or lead?) fault →
      Untyped s lead? (.field node condition?) fault
  | undefinedSpread {node : SpreadNode} :
      Untyped s lead? (.undefinedSpread node) (.undefinedFragment node.name)

/-- The first occurrence of a key at a merged level. -/
def first? (fragments : Fragments) (sets : List (List Syntax.Selection)) (key : String) :
    Option Occurrence :=
  (levelOccurrences fragments sets).find? (·.key = key)

/-- The selection sets of all occurrences of a key. -/
def inner (fragments : Fragments) (sets : List (List Syntax.Selection)) (key : String) :
    List (List Syntax.Selection) :=
  (groupOf (levelOccurrences fragments sets) key).sets

/-- The parent type of what is selected below a field, as far as its type is known. -/
def leadBelow? (type : Except Unresolved TypeRef) : Option String :=
  match type with
  | .ok t => t.name?
  | .error _ => none

/-- The field or spread that occurs. -/
def Occurrence.node : Occurrence → Node
  | .field node _ => .field node
  | .undefinedSpread node => .fragmentSpread node

/-- A typed field is what comes first for its key, and has no type exactly if that has none. -/
structure TypedAs (s : Schema) (lead? : Option String) (first : Occurrence) (f : TypedField) :
    Prop where
  node : f.node = first.node
  unresolved : ∀ u, f.type = .error u ↔ ∃ fault, Untyped s lead? first fault ∧ u = fault.unresolved

theorem accounted_eq_error {type : Except FieldFault TypeRef} {u : Unresolved} :
    accounted type = .error u ↔ ∃ fault, type = .error fault ∧ u = fault.unresolved := by
  cases type <;> simp [accounted, Except.mapError, eq_comm]

theorem untyped_field_iff {node : FieldNode} {condition? : Option String} {fault : FieldFault} :
    Untyped s lead? (.field node condition?) fault ↔
      fieldType s (condition?.or lead?) node.name = .error fault := by
  rw [fieldType_eq_error_iff]
  exact ⟨fun h => by cases h; assumption, .field⟩

theorem typedAs_of_types {sets : List (List Syntax.Selection)} {fuel : ℕ} {key : String}
    {f : TypedField} (h : Types s fragments fuel lead?
      (groupOf (levelOccurrences fragments sets) key) f)
    {first : Occurrence} (hkey : first.key = key)
    (horigin : (groupOf (levelOccurrences fragments sets) key).origin = first.origin) :
    TypedAs s lead? first f := by
  cases first with
  | undefinedSpread node =>
    obtain rfl : node.name = key := hkey
    cases h with
    | leaf h => cases horigin.symm.trans h
    | object h => cases horigin.symm.trans h
    | undefinedSpread h =>
      cases horigin.symm.trans h
      refine ⟨rfl, fun u => ⟨fun hu => ?_, ?_⟩⟩
      · cases hu
        exact ⟨_, .undefinedSpread, rfl⟩
      · rintro ⟨_, ⟨⟩, rfl⟩
        rfl
  | field node condition? =>
    have htype := h.type_eq horigin
    refine ⟨?_, fun u => ?_⟩
    · cases h with
      | leaf h | object h =>
        cases horigin.symm.trans h
        rfl
      | undefinedSpread h => cases h.symm.trans horigin
    · simp only [htype, accounted_eq_error, untyped_field_iff]

theorem leadBelow?_accounted (type : Except FieldFault TypeRef) :
    leadBelow? (accounted type) = childParent? type := by
  cases type <;> rfl

end Selection

namespace Response

open Selection

variable {s : Schema} {r : Resolver} {fragments : Fragments} {lead? : Option String}

/-- A property tells whether the type of its field is known. Without one it has the reason for a
comment, may be missing, and has a type that admits anything, or any object of the class of its own
if the field has selections; otherwise it has the type of the field and no comment. -/
structure Reports (r : Resolver) (own? : Option String) (f : TypedField) (p : Property) : Prop where
  propertyFor : PropertyFor r f.key p
  untyped : ∀ u, f.type = .error u →
    p.comment? = some u.detail ∧ p.required = false ∧
      p.type = (own?.map r.target.optional).getD r.target.anyType
  typed : ∀ t, f.type = .ok t →
    p.comment? = none ∧ p.required = t.isRequired ∧
      r.resolve own? "selection" t = .ok p.type

theorem detail_unresolved_ne (fault : FieldFault) : fault.unresolved.detail ≠ "" := by
  cases fault <;> simp [FieldFault.unresolved, ← String.toList_inj]

theorem reports_leafProperty {node : Node} {key : String}
    {type : Except Unresolved TypeRef} (hf : Founded (.leaf node key type))
    (htype : ∀ u, type = .error u → u.detail ≠ "") :
    Reports r none (.leaf node key type) (leafProperty r key type) := by
  refine ⟨propertyFor_leafProperty r key type, ?_, ?_⟩
  · rintro u rfl
    simp [leafProperty, untypedProperty, Property.of, htype u rfl]
  · rintro t rfl
    obtain ⟨spelled, hspelled, -⟩ := exists_resolve (hf.type t rfl) r none "selection"
    simp [leafProperty, hspelled, Property.of]

theorem reports_objectProperty {node : Node} {key : String}
    {type : Except Unresolved TypeRef} {children : List TypedField}
    (hf : Founded (.object node key type children)) (own : String) :
    Reports r (some own) (.object node key type children)
      (objectProperty r key type own) := by
  refine ⟨propertyFor_objectProperty r key type own, ?_, ?_⟩
  · rintro u rfl
    simp [objectProperty, Property.of]
  · rintro t rfl
    obtain ⟨spelled, hspelled, -⟩ := exists_resolve (hf.type t rfl) r (some own) "selection"
    simp [objectProperty, hspelled, Property.of]

/-- The properties and nested classes of a merged level, beside its typed fields: a field has a
property, and one with selections a class too, that is related to the level below in the same
way. -/
inductive Mirrors (r : Resolver) (s : Schema) (fragments : Fragments) :
    Option String → List (List Syntax.Selection) → List TypedField → List Property →
      List ClassModel → Prop where
  | nil {lead? : Option String} {sets : List (List Syntax.Selection)} :
      Mirrors r s fragments lead? sets [] [] []
  | leaf {lead? : Option String} {sets : List (List Syntax.Selection)} {first : Occurrence}
      {f : TypedField} {fields : List TypedField} {p : Property} {ps : List Property}
      {classes : List ClassModel} :
      first? fragments sets f.key = some first → TypedAs s lead? first f →
      f.children? = none →
      f.node.kind = .fragmentSpread ∨ inner fragments sets f.key = [] →
      Reports r none f p →
      Mirrors r s fragments lead? sets fields ps classes →
      Mirrors r s fragments lead? sets (f :: fields) (p :: ps) classes
  | object {lead? : Option String} {sets : List (List Syntax.Selection)} {first : Occurrence}
      {f : TypedField} {fields children : List TypedField} {p : Property} {ps : List Property}
      {c : ClassModel} {classes : List ClassModel} :
      first? fragments sets f.key = some first → TypedAs s lead? first f →
      f.children? = some children →
      f.node.kind = .field → inner fragments sets f.key ≠ [] →
      Reports r (some c.name) f p →
      children.map (·.key) = keys (levelOccurrences fragments (inner fragments sets f.key)) →
      Mirrors r s fragments (leadBelow? f.type) (inner fragments sets f.key) children c.properties
        c.classes →
      Mirrors r s fragments lead? sets fields ps classes →
      Mirrors r s fragments lead? sets (f :: fields) (p :: ps) (c :: classes)

/-- The members of a class mirror its typed fields, whatever names are taken in it. The proof goes
along the fields of the level; the levels below them are given. -/
theorem mirrors_of_forall₂ (hs : s.Written) {fuel : ℕ} {sets : List (List Syntax.Selection)}
    (hbelow : ∀ {sets : List (List Syntax.Selection)} {l : Level},
      mergeWithin fragments fuel sets = some l → ∀ lead? used,
      (l.annotate s lead?).map (·.key) = keys (levelOccurrences fragments sets) ∧
      Mirrors r s fragments lead? sets (l.annotate s lead?)
        (members r used (l.annotate s lead?)).1 (members r used (l.annotate s lead?)).2)
    {ks : List String} (hks : ks ⊆ keys (levelOccurrences fragments sets))
    {fields : List TypedField}
    (h : List.Forall₂ (fun key f =>
      Types s fragments fuel lead? (groupOf (levelOccurrences fragments sets) key) f) ks fields)
    (used : List String) : Mirrors r s fragments lead? sets fields (members r used fields).1
      (members r used fields).2 := by
  induction h generalizing used with
  | nil =>
    rw [members]
    exact .nil
  | @cons key f ks fields htyped _ ih =>
    rw [List.cons_subset] at hks
    have hrest := ih hks.2
    have hkey : f.key = key := htyped.key_eq
    obtain ⟨first, hfirst, hfirstKey, horigin⟩ := exists_first_occurrence hks.1
    have hfirst' : first? fragments sets f.key = some first := hkey ▸ hfirst
    have has := typedAs_of_types htyped hfirstKey horigin
    have hdetail : ∀ u, f.type = .error u → u.detail ≠ "" := by
      intro u hu
      obtain ⟨fault, -, rfl⟩ := (has.unresolved u).mp hu
      exact detail_unresolved_ne fault
    have hf := founded_of_types hs htyped
    cases htyped with
    | leaf _ hnil =>
      rw [members]
      exact .leaf hfirst' has rfl (.inr hnil) (reports_leafProperty hf hdetail) (hrest used)
    | undefinedSpread =>
      rw [members]
      exact .leaf hfirst' has rfl (.inl rfl) (reports_leafProperty hf hdetail) (hrest used)
    | @object node condition? level _ hsets hinner =>
      rw [members]
      have hlead := leadBelow?_accounted (fieldType s (condition?.or lead?) node.name)
      obtain ⟨hkeys, hmirrors⟩ :=
        hbelow hinner (childParent? (fieldType s (condition?.or lead?) node.name)) _
      exact .object hfirst' has rfl rfl hsets (reports_objectProperty hf _) hkeys
        (hlead.symm ▸ hmirrors) (hrest _)

/-- The class of a merged level mirrors its typed fields at every depth. -/
theorem mirrors_annotate (hs : s.Written) {fuel : ℕ} {sets : List (List Syntax.Selection)}
    {l : Level} (h : mergeWithin fragments fuel sets = some l) (lead? : Option String)
    (used : List String) :
    (l.annotate s lead?).map (·.key) = keys (levelOccurrences fragments sets) ∧
      Mirrors r s fragments lead? sets (l.annotate s lead?)
        (members r used (l.annotate s lead?)).1 (members r used (l.annotate s lead?)).2 := by
  induction fuel generalizing sets l lead? used with
  | zero => simp [mergeWithin] at h
  | succ fuel ih =>
    exact ⟨map_key_annotate h lead?, mirrors_of_forall₂ hs ih (List.Subset.refl _)
      (forall₂_types h lead?) used⟩

theorem comment?_of_nestedIn {fields : List TypedField}
    (hfounded : ∀ f, Within fields f → Founded f) {name : String} {d : ClassModel}
    (hd : NestedIn (classNamed r name fields) d) :
    d.comment? = none := by
  obtain ⟨level, -, hclass, -⟩ := exists_level_of_nestedIn hd rfl hfounded
  rw [hclass]
  rfl

end Response

namespace Generator

open Selection Response

/-- The typed fields and the answer of every operation run in parallel. A field has no type exactly
if it is an undefined spread or its parent does not have it, and its property says so; each of its
siblings, and each key of its own selections, has its property all the same. -/
theorem mirrors_response {s : Schema} (hs : s.Written) {r : Resolver} (hr : IsBuiltIn r.target)
    {fragments : Fragments} {o : Operation} {kind : OperationKind} (hkind : kindOf o = .ok kind)
    (hcycle : NoFieldCycle fragments o.selections) :
    ∃ fields log, typedFields s fragments kind o = .ok (fields, log) ∧
      requireSpelled r (escapedInClass r fields) = .ok () ∧
      (∀ document c m, contribution r s fragments document o = .ok c →
        c.operation? = some m → m.response = ofOperation r fields) ∧
      fields.map (·.key) = keys (levelOccurrences fragments [o.selections]) ∧
      Mirrors r s fragments (rootName? s kind) [o.selections] fields
        (ofOperation r fields).properties (ofOperation r fields).classes ∧
      ∀ d, NestedIn (ofOperation r fields) d → d.comment? = none := by
  have hcycles : ∀ set ∈ [o.selections], NoFieldCycle fragments set := by simpa using hcycle
  obtain ⟨l, hl⟩ := exists_merge? hcycles
  have hfields := typedFields_of_merge? (s := s) hl kind
  obtain ⟨hkeys, hmirrors⟩ := mirrors_annotate (r := r) hs hl (rootName? s kind)
    (takenNames r className (l.annotate s (rootName? s kind)))
  refine ⟨_, _, hfields, ?_, ?_, hkeys, hmirrors, fun d hd => ?_⟩
  · exact requireSpelled_eq_ok.mpr fun name _ => escapeFault?_builtIn hr name
  · exact fun document c m hc hm => response_of_contribution hkind hfields hc hm
  · exact comment?_of_nestedIn (fun f hf => founded_annotate hs hl hf) hd

/-- An undefined spread and a field that the root type lacks, whose own selections find a type
again, before one that it has. -/
def ghostQuery : Operation :=
  ⟨none, .parsed .query, some "Ghost", [], [],
    [.spread "Parts" [] 0,
      plainField "ghost" (some [plainField "__typename" none, plainField "size" none,
        .inline (some "User") [] [plainField "name" none]]),
      plainField "user" (some [plainField "name" none])], none⟩

theorem mirrors_ghostQuery : ∃ fields log,
    typedFields Response.userSchema [] .query ghostQuery = .ok (fields, log) ∧
    fields.map (·.key) = ["Parts", "ghost", "user"] ∧
    Mirrors userResolver Response.userSchema [] (some "Query") [ghostQuery.selections] fields
      (ofOperation userResolver fields).properties (ofOperation userResolver fields).classes := by
  obtain ⟨fields, log, hfields, -, -, hkeys, hmirrors, -⟩ := mirrors_response written_userSchema
    (r := userResolver) (.inr rfl) (o := ghostQuery) rfl (noFieldCycle_nil _)
  exact ⟨fields, log, hfields, hkeys, hmirrors⟩

end Generator

end OperationClasses
