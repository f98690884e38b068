import OperationClasses.Proofs.Selection.Pruning

/-!
# Undefined spreads

An undefined spread is listed among the fields of its level under its own name. As long as no field
of the level has that name for its response key, the spread has an entry there, and without these
entries the typed fields are those of the pruned selections. Where a spread and a field share a
response key, the one that is met first displaces the other: the field is lost, or the entry.
-/
namespace OperationClasses.Selection

open Syntax

/-- A node above a pruned selection set. -/
def prunedNode (fragments : Fragments) : Node → Node
  | .field node => .field (prunedField fragments node)
  | .fragmentSpread node => .fragmentSpread node

mutual

/-- A typed field of the pruned selections; none for the entry of an undefined spread. -/
def withoutSpread? (fragments : Fragments) : TypedField → Option TypedField
  | .leaf (.fragmentSpread _) _ _ => none
  | .leaf (.field node) key type => some (.leaf (.field (prunedField fragments node)) key type)
  | .object node key type children =>
    some (.object (prunedNode fragments node) key type (withoutSpreads fragments children))

def withoutSpreads (fragments : Fragments) : List TypedField → List TypedField
  | [] => []
  | f :: rest => (withoutSpread? fragments f).toList ++ withoutSpreads fragments rest

end

/-- The entry of an undefined spread. -/
def spreadEntry (node : SpreadNode) : TypedField :=
  .leaf (.fragmentSpread node) node.name
    (.error (FieldFault.undefinedFragment node.name).unresolved)

/-- What stands at a level below a selection set: at the end of a path of response keys of fields
that stand inside each other. -/
inductive OccursAt (fragments : Fragments) :
    List Syntax.Selection → List String → Occurrence → Prop where
  | here {set : List Syntax.Selection} {o : Occurrence} :
      Occurs fragments none set o → OccursAt fragments set [] o
  | inside {set inner : List Syntax.Selection} {node : FieldNode} {c : Option String}
      {path : List String} {o : Occurrence} :
      Occurs fragments none set (.field node c) → node.selections? = some inner →
      OccursAt fragments inner path o → OccursAt fragments set (node.key :: path) o

/-- What stands at a level below selection sets that are merged. -/
def StandsAt (fragments : Fragments) (sets : List (List Syntax.Selection)) (path : List String)
    (o : Occurrence) : Prop :=
  ∃ set ∈ sets, OccursAt fragments set path o

/-- The typed fields at the end of a path of response keys. -/
inductive FieldsAt : List TypedField → List String → List TypedField → Prop where
  | here {fields : List TypedField} : FieldsAt fields [] fields
  | inside {fields children level : List TypedField} {f : TypedField} {path : List String} :
      f ∈ fields → f.children? = some children → FieldsAt children path level →
      FieldsAt fields (f.key :: path) level

/-- At no level an undefined spread has the response key of a field for its name. -/
def KeysApart (fragments : Fragments) (sets : List (List Syntax.Selection)) : Prop :=
  ∀ path spread, StandsAt fragments sets path (.undefinedSpread spread) →
    ∀ node c, StandsAt fragments sets path (.field node c) → node.key ≠ spread.name

/-- Undefined spreads disturb no field: without their entries the typed fields are those of the
pruned selections, and at every level that holds an undefined spread there is an entry for it. -/
structure Undisturbed (s : Schema) (fragments : Fragments) (parent? : Option String)
    (sets : List (List Syntax.Selection)) : Prop where
  typed : (merge? (prunedFragments fragments) (sets.map (prunedAll fragments))).map
      (·.annotate s parent?) =
    (merge? fragments sets).map fun l => withoutSpreads fragments (l.annotate s parent?)
  entered : ∀ l, merge? fragments sets = some l → ∀ path spread,
    StandsAt fragments sets path (.undefinedSpread spread) →
    ∃ level entry, FieldsAt (l.annotate s parent?) path level ∧ spreadEntry entry ∈ level ∧
      entry.name = spread.name

variable {s : Schema} {fragments : Fragments} {sets : List (List Syntax.Selection)}
  {parent? : Option String} {path : List String} {o : Occurrence}

theorem withoutSpreads_eq_filterMap (fragments : Fragments) (fields : List TypedField) :
    withoutSpreads fragments fields = fields.filterMap (withoutSpread? fragments) := by
  induction fields with
  | nil => rfl
  | cons f rest ih =>
    rw [withoutSpreads, ih, List.filterMap_cons]
    cases withoutSpread? fragments f <;> rfl

/-- What stands at the level itself. -/
theorem standsAt_nil_iff :
    StandsAt fragments sets [] o ↔ o ∈ levelOccurrences fragments sets := by
  rw [StandsAt, mem_levelOccurrences]
  refine exists_congr fun set => and_congr_right fun _ => ⟨?_, .here⟩
  rintro ⟨ho⟩
  exact ho

/-- What stands further in stands below the merged selection sets of a key. -/
theorem standsAt_cons_iff {key : String} :
    StandsAt fragments sets (key :: path) o ↔
      StandsAt fragments (groupOf (levelOccurrences fragments sets) key).sets path o := by
  constructor
  · rintro ⟨outer, houter, ho⟩
    cases ho with
    | inside hfield hset hbelow =>
      have hmem := mem_levelOccurrences.mpr ⟨outer, houter, hfield⟩
      exact ⟨_, mem_sets_groupOf.mpr ⟨_, hmem, rfl, hset⟩, hbelow⟩
  · rintro ⟨inner, hinner, hbelow⟩
    obtain ⟨outer, houter, field, hfield, hkey, hset⟩ := mem_sets_levelOccurrences hinner
    cases field with
    | undefinedSpread => cases hset
    | field node c =>
      obtain rfl : node.key = key := hkey
      exact ⟨outer, houter, .inside hfield hset hbelow⟩

theorem KeysApart.below (h : KeysApart fragments sets) (key : String) :
    KeysApart fragments (groupOf (levelOccurrences fragments sets) key).sets := by
  intro path spread hspread node c hfield
  exact h (key :: path) spread (standsAt_cons_iff.mpr hspread) node c
    (standsAt_cons_iff.mpr hfield)

def Origin.isField : Origin → Bool
  | .field .. => true
  | .undefinedSpread _ => false

/-- A response key is first met as a field. -/
def isFieldKey (os : List Occurrence) (key : String) : Bool := (groupOf os key).origin.isField

/-- Where keys are apart, all occurrences of a key are fields or all are undefined spreads. -/
theorem KeysApart.isFieldKey_eq (h : KeysApart fragments sets)
    (ho : o ∈ levelOccurrences fragments sets) :
    (o.pruned? fragments).isSome = isFieldKey (levelOccurrences fragments sets) o.key := by
  obtain ⟨first, hfirst, hkey, horigin⟩ := exists_origin_groupOf (mem_keys.mpr ⟨o, ho, rfl⟩)
  rw [isFieldKey, horigin]
  cases o with
  | field node c =>
    cases first with
    | field => rfl
    | undefinedSpread spread =>
      exact absurd hkey.symm
        (h [] spread (standsAt_nil_iff.mpr hfirst) node c (standsAt_nil_iff.mpr ho))
  | undefinedSpread spread =>
    cases first with
    | undefinedSpread => rfl
    | field node c =>
      exact absurd hkey (h [] spread (standsAt_nil_iff.mpr ho) node c (standsAt_nil_iff.mpr hfirst))

theorem member_of_field {fuel : ℕ} {g : Group} {node : FieldNode} {c : Option String}
    (horigin : g.origin = .field node c) :
    member fragments fuel g =
      if g.sets.isEmpty then some (.leaf node c)
      else (mergeWithin fragments fuel g.sets).map fun l =>
        .object node c l.spreads l.members := by
  rw [member, horigin]

/-- A field of the answer is typed from its type and the typed fields below it. -/
theorem annotate_member {fuel : ℕ} {g : Group} {node : FieldNode} {c : Option String}
    (horigin : g.origin = .field node c) :
    (member fragments fuel g).map (annotate s parent?) =
      if g.sets.isEmpty then
        some (.leaf (.field node) node.key (accounted (fieldType s (c.or parent?) node.name)))
      else ((mergeWithin fragments fuel g.sets).map
        (·.annotate s (childParent? (fieldType s (c.or parent?) node.name)))).map
          (.object (.field node) node.key (accounted (fieldType s (c.or parent?) node.name))) := by
  rw [member_of_field horigin]
  split
  · rfl
  · simp only [Option.map_map]
    rfl

/-- A field above pruned selection sets is typed as before, if what stands below it is. -/
theorem annotate_member_pruned {fuel : ℕ} {g : Group} {node : FieldNode} {c : Option String}
    (horigin : g.origin = .field node c)
    (hbelow : ∀ parent?, (mergeWithin (prunedFragments fragments) fuel
      (g.sets.map (prunedAll fragments))).map (·.annotate s parent?) =
        (mergeWithin fragments fuel g.sets).map fun l =>
          withoutSpreads fragments (l.annotate s parent?)) :
    ((member (prunedFragments fragments) fuel (g.pruned fragments)).map
        (annotate s parent?)).map some =
      ((member fragments fuel g).map (annotate s parent?)).map (withoutSpread? fragments) := by
  have hpruned : (g.pruned fragments).origin = .field (prunedField fragments node) c := by
    rw [Group.pruned, horigin, Origin.pruned]
  rw [annotate_member horigin, annotate_member hpruned, Group.pruned, List.isEmpty_map]
  split
  · rfl
  · rw [hbelow]
    simp only [Option.map_map]
    rfl

theorem map_mapM {α β γ : Type} (f : β → γ) (g : α → Option β) (as : List α) :
    (as.mapM g).map (List.map f) = as.mapM fun a => (g a).map f := by
  induction as with
  | nil => rfl
  | cons a as ih =>
    rw [List.mapM_cons, List.mapM_cons, ← ih]
    cases g a <;> cases as.mapM g <;> rfl

/-- The typed fields of a level, key by key. -/
theorem annotate_mergeWithin_succ (fuel : ℕ) :
    (mergeWithin fragments (fuel + 1) sets).map (·.annotate s parent?) =
      (keys (levelOccurrences fragments sets)).mapM fun key =>
        (member fragments fuel (groupOf (levelOccurrences fragments sets) key)).map
          (annotate s parent?) := by
  rw [mergeWithin_succ, ← map_mapM, Option.map_map]
  refine congrArg (Option.map · _) (funext fun members => ?_)
  exact annotateAll_eq_map s parent? members

/-- Results that are dropped afterwards need not be found. -/
theorem mapM_filter {α β : Type} {g g' : α → Option β} {p : α → Bool} {f : β → Option β}
    {as : List α} (hkept : ∀ a ∈ as, p a = true → (g' a).map some = (g a).map f)
    (hdropped : ∀ a ∈ as, p a = false → (g a).map f = some none) :
    (as.filter p).mapM g' = (as.mapM g).map (List.filterMap f) := by
  induction as with
  | nil => rfl
  | cons a as ih =>
    simp only [List.forall_mem_cons] at hkept hdropped
    have ih := ih hkept.2 hdropped.2
    cases hp : p a with
    | false =>
      obtain ⟨b, hb, hnone⟩ := Option.map_eq_some_iff.mp (hdropped.1 hp)
      rw [List.filter_cons_of_neg (by simp [hp]), ih, List.mapM_cons, hb]
      cases as.mapM g <;> simp [hnone]
    | true =>
      have hstep := hkept.1 hp
      rw [List.filter_cons_of_pos hp, List.mapM_cons, List.mapM_cons, ih]
      cases hb : g a with
      | none =>
        rw [hb, Option.map_none, Option.map_eq_none_iff] at hstep
        rw [hstep]
        rfl
      | some b =>
        obtain ⟨b', hb', hf⟩ := Option.map_eq_some_iff.mp (hstep.trans (congrArg _ hb))
        rw [hb']
        cases as.mapM g <;> simp [← hf]

/-- Where keys are apart, pruning the selections drops the entries of undefined spreads. -/
theorem annotate_mergeWithin_pruned (fuel : ℕ) (h : KeysApart fragments sets)
    (parent? : Option String) :
    (mergeWithin (prunedFragments fragments) fuel (sets.map (prunedAll fragments))).map
        (·.annotate s parent?) =
      (mergeWithin fragments fuel sets).map fun l =>
        withoutSpreads fragments (l.annotate s parent?) := by
  induction fuel generalizing sets parent? with
  | zero => rfl
  | succ fuel ih =>
    have hsplit : (mergeWithin fragments (fuel + 1) sets).map
          (fun l => withoutSpreads fragments (l.annotate s parent?)) =
        ((mergeWithin fragments (fuel + 1) sets).map (·.annotate s parent?)).map
          (List.filterMap (withoutSpread? fragments)) := by
      rw [Option.map_map]
      exact congrArg (Option.map · _) (funext fun l => withoutSpreads_eq_filterMap fragments _)
    rw [hsplit, annotate_mergeWithin_succ, annotate_mergeWithin_succ, levelOccurrences_pruned,
      keys_pruned fun o ho => h.isFieldKey_eq ho]
    refine mapM_filter (fun key _ hkey => ?_) fun key _ hkey => ?_
    · cases horigin : (groupOf (levelOccurrences fragments sets) key).origin with
      | undefinedSpread node => simp [isFieldKey, horigin, Origin.isField] at hkey
      | field node c =>
        rw [groupOf_pruned fragments horigin]
        exact annotate_member_pruned horigin (ih (h.below key))
    · cases horigin : (groupOf (levelOccurrences fragments sets) key).origin with
      | undefinedSpread node => simp [member, horigin, annotate, withoutSpread?]
      | field node c => simp [isFieldKey, horigin, Origin.isField] at hkey

theorem mem_keys_of_origin {os : List Occurrence} {key : String} {node : FieldNode}
    {c : Option String} (h : (groupOf os key).origin = .field node c) : key ∈ keys os := by
  cases hfind : os.find? (·.key = key) with
  | none => simp [groupOf, hfind] at h
  | some o => exact mem_keys.mpr ⟨o, List.mem_of_find?_eq_some hfind, by
      simpa using List.find?_some hfind⟩

/-- What is merged after pruning is merged without it, whatever the keys are. -/
theorem exists_mergeWithin_of_pruned {fuel : ℕ} {l : Level}
    (h : mergeWithin (prunedFragments fragments) fuel (sets.map (prunedAll fragments)) = some l) :
    ∃ l, mergeWithin fragments fuel sets = some l := by
  induction fuel generalizing sets l with
  | zero => simp [mergeWithin] at h
  | succ fuel ih =>
    refine exists_mergeWithin_succ fun key => ?_
    cases horigin : (groupOf (levelOccurrences fragments sets) key).origin with
    | undefinedSpread node => exact ⟨.undefinedSpread node, by rw [member, horigin]⟩
    | field node c =>
      have hpruned := groupOf_pruned fragments horigin
      rw [← levelOccurrences_pruned] at hpruned
      have horigin' : ((groupOf (levelOccurrences fragments sets) key).pruned fragments).origin =
          .field (prunedField fragments node) c := by
        rw [Group.pruned, horigin, Origin.pruned]
      have hkey : key ∈ keys (levelOccurrences (prunedFragments fragments)
          (sets.map (prunedAll fragments))) :=
        mem_keys_of_origin ((congrArg Group.origin hpruned).trans horigin')
      obtain ⟨m, -, hm⟩ := exists_mem_of_forall₂ (mergeWithin_succ_iff.mp h).2 hkey
      rw [hpruned, member_of_field horigin', Group.pruned, List.isEmpty_map] at hm
      rw [member_of_field horigin]
      split at hm
      · next hempty => exact ⟨_, if_pos hempty⟩
      · next hempty =>
        obtain ⟨inner, hinner, -⟩ := Option.map_eq_some_iff.mp hm
        obtain ⟨inner, hinner⟩ := ih hinner
        rw [if_neg hempty, hinner]
        exact ⟨_, rfl⟩

theorem exists_eq_succ_of_mergeWithin {fuel : ℕ} {l : Level}
    (h : mergeWithin fragments fuel sets = some l) : ∃ n, fuel = n + 1 := by
  cases fuel with
  | zero => simp [mergeWithin] at h
  | succ n => exact ⟨n, rfl⟩

/-- Where keys are apart, every undefined spread has an entry at its level. -/
theorem KeysApart.exists_entry (h : KeysApart fragments sets) {fuel : ℕ} {l : Level}
    (hl : mergeWithin fragments fuel sets = some l) {spread : SpreadNode}
    (hspread : StandsAt fragments sets path (.undefinedSpread spread))
    (parent? : Option String) :
    ∃ level entry, FieldsAt (l.annotate s parent?) path level ∧ spreadEntry entry ∈ level ∧
      entry.name = spread.name := by
  induction path generalizing sets fuel l parent? with
  | nil =>
    obtain ⟨fuel, rfl⟩ := exists_eq_succ_of_mergeWithin hl
    have ho := standsAt_nil_iff.mp hspread
    have hkey : spread.name ∈ keys (levelOccurrences fragments sets) := mem_keys.mpr ⟨_, ho, rfl⟩
    have hfield : false = isFieldKey (levelOccurrences fragments sets) spread.name :=
      h.isFieldKey_eq ho
    obtain ⟨f, hf, htyped⟩ := exists_mem_of_forall₂ (forall₂_types (s := s) hl parent?) hkey
    cases htyped with
    | leaf horigin => simp [isFieldKey, horigin, Origin.isField] at hfield
    | object horigin => simp [isFieldKey, horigin, Origin.isField] at hfield
    | @undefinedSpread entry horigin =>
      have hentry : entry.name = spread.name := by
        have hname := key_origin_groupOf (levelOccurrences fragments sets) spread.name
        rwa [horigin] at hname
      refine ⟨_, entry, .here, ?_, hentry⟩
      rw [spreadEntry, hentry]
      exact hf
  | cons key path ih =>
    obtain ⟨fuel, rfl⟩ := exists_eq_succ_of_mergeWithin hl
    rw [standsAt_cons_iff] at hspread
    obtain ⟨set, hset, -⟩ := id hspread
    obtain ⟨o, ho, hokey, hoset⟩ := mem_sets_groupOf.mp hset
    have hkey : key ∈ keys (levelOccurrences fragments sets) := mem_keys.mpr ⟨o, ho, hokey⟩
    obtain ⟨f, hf, htyped⟩ := exists_mem_of_forall₂ (forall₂_types (s := s) hl parent?) hkey
    cases htyped with
    | leaf _ hnil =>
      rw [hnil] at hset
      cases hset
    | object _ _ hinner =>
      obtain ⟨level, entry, hlevel, hentry⟩ := ih (h.below key) hinner hspread _
      exact ⟨level, entry, .inside hf rfl hlevel, hentry⟩
    | undefinedSpread hundefined =>
      have hfield := h.isFieldKey_eq ho
      rw [hokey, isFieldKey, hundefined] at hfield
      cases o with
      | undefinedSpread => cases hoset
      | field => cases hfield

/-- The typed fields at the end of a path stand for the keys of what stands there in the text. -/
theorem map_key_of_fieldsAt {fuel : ℕ} {l : Level} {level : List TypedField}
    (hl : mergeWithin fragments fuel sets = some l)
    (hlevel : FieldsAt (l.annotate s parent?) path level) :
    (level.map (·.key)).Nodup ∧ ∀ o, StandsAt fragments sets path o →
      o.key ∈ level.map (·.key) := by
  induction path generalizing sets fuel l parent? with
  | nil =>
    obtain ⟨fuel, rfl⟩ := exists_eq_succ_of_mergeWithin hl
    cases hlevel
    rw [map_key_annotate hl]
    exact ⟨nodup_keys _, fun o ho => mem_keys.mpr ⟨o, standsAt_nil_iff.mp ho, rfl⟩⟩
  | cons key path ih =>
    obtain ⟨fuel, rfl⟩ := exists_eq_succ_of_mergeWithin hl
    generalize hpath : key :: path = whole at hlevel
    cases hlevel with
    | here => cases hpath
    | inside hf hchildren hbelow =>
      obtain ⟨hkey, rfl⟩ := List.cons.inj hpath
      obtain ⟨k, -, htyped⟩ := exists_mem_of_forall₂ (forall₂_types (s := s) hl parent?).flip hf
      obtain rfl : key = k := hkey.trans htyped.key_eq
      cases htyped with
      | leaf => cases hchildren
      | object _ _ hinner =>
        cases hchildren
        obtain ⟨hnodup, hmem⟩ := ih hinner hbelow
        exact ⟨hnodup, fun o ho => hmem o (standsAt_cons_iff.mp ho)⟩
      | undefinedSpread => cases hchildren

theorem key_of_withoutSpread? {f f' : TypedField} (h : withoutSpread? fragments f = some f') :
    f'.key = f.key := by
  cases f with
  | leaf node key type => cases node <;> cases h; rfl
  | object node key type children => cases h; rfl

theorem FieldsAt.withoutSpreads {fields level : List TypedField}
    (h : FieldsAt fields path level) :
    FieldsAt (Selection.withoutSpreads fragments fields) path
      (Selection.withoutSpreads fragments level) := by
  induction h with
  | here => exact .here
  | @inside fields children level f path hf hchildren _ ih =>
    cases f with
    | leaf => cases hchildren
    | object node key type =>
      cases hchildren
      have hmem : TypedField.object (prunedNode fragments node) key type
          (Selection.withoutSpreads fragments children) ∈
            Selection.withoutSpreads fragments fields := by
        rw [withoutSpreads_eq_filterMap]
        exact List.mem_filterMap.mpr ⟨_, hf, rfl⟩
      have hinside := FieldsAt.inside hmem rfl ih
      exact hinside

/-- What stands at a level of the text and is kept stands there after pruning. -/
theorem StandsAt.pruned {o' : Occurrence} (ho : StandsAt fragments sets path o)
    (hpruned : o.pruned? fragments = some o') :
    StandsAt (prunedFragments fragments) (sets.map (prunedAll fragments)) path o' := by
  induction path generalizing sets with
  | nil =>
    rw [standsAt_nil_iff] at ho ⊢
    rw [levelOccurrences_pruned]
    exact List.mem_filterMap.mpr ⟨o, ho, hpruned⟩
  | cons key path ih =>
    rw [standsAt_cons_iff] at ho ⊢
    rw [levelOccurrences_pruned, sets_groupOf_pruned]
    exact ih ho

/-- Undisturbed fields have keys of their own. -/
theorem Undisturbed.keysApart (h : Undisturbed s fragments parent? sets) {l : Level}
    (hl : merge? fragments sets = some l) : KeysApart fragments sets := by
  intro path spread hspread node c hfield hname
  obtain ⟨level, entry, hlevel, hentry, hentryName⟩ := h.entered l hl path spread hspread
  obtain ⟨hnodup, -⟩ := map_key_of_fieldsAt hl hlevel
  obtain ⟨l', hl', htyped⟩ := Option.map_eq_some_iff.mp (h.typed.trans (congrArg _ hl))
  have hlevel' : FieldsAt (l'.annotate s parent?) path (withoutSpreads fragments level) :=
    htyped ▸ hlevel.withoutSpreads
  have hkey := (map_key_of_fieldsAt hl' hlevel').2 _ (hfield.pruned rfl)
  obtain ⟨f', hf', hf'key⟩ := List.mem_map.mp hkey
  rw [withoutSpreads_eq_filterMap] at hf'
  obtain ⟨f, hf, hkept⟩ := List.mem_filterMap.mp hf'
  have hfkey : f.key = (spreadEntry entry).key :=
    (key_of_withoutSpread? hkept).symm.trans (hf'key.trans (hname.trans hentryName.symm))
  obtain rfl := List.inj_on_of_nodup_map hnodup hf hentry hfkey
  cases hkept

/-- Undefined spreads disturb no field exactly if none of them has the response key of a field of
its level, or no tree comes about because a fragment leads back to itself through a field. -/
theorem undisturbed_iff (s : Schema) (fragments : Fragments) (parent? : Option String)
    (sets : List (List Syntax.Selection)) :
    Undisturbed s fragments parent? sets ↔
      KeysApart fragments sets ∨ merge? fragments sets = none := by
  constructor
  · intro h
    cases hl : merge? fragments sets with
    | none => exact .inr rfl
    | some l => exact .inl (h.keysApart hl)
  · rintro (h | hnone)
    · refine ⟨?_, fun l hl path spread hspread => h.exists_entry hl hspread parent?⟩
      rw [merge?, merge?, depthBound_pruned]
      exact annotate_mergeWithin_pruned _ h parent?
    · have hpruned :
          merge? (prunedFragments fragments) (sets.map (prunedAll fragments)) = none := by
        rw [Option.eq_none_iff_forall_ne_some]
        intro l hl
        rw [merge?, depthBound_pruned] at hl
        obtain ⟨l, hl⟩ := exists_mergeWithin_of_pruned hl
        cases hnone.symm.trans hl
      exact ⟨by rw [hpruned, hnone]; rfl, fun l hl => by cases hnone.symm.trans hl⟩

/-- A query for one user. -/
def userSchema : Schema :=
  ⟨none, [], [⟨none, false, "Query", [], .object [] [⟨none, "user", [], .named (some "User"), []⟩]⟩,
    ⟨none, false, "User", [], .object [] [⟨none, "id", [], .named (some "ID"), []⟩]⟩]⟩

/-- The field `user`. -/
def userField : Syntax.Selection := plainField "user" (some [plainField "id" none])

/-- An undefined spread `...user` in front of the field `user` displaces it; behind the field it has
no entry. -/
theorem not_undisturbed_userField :
    ¬ Undisturbed userSchema [] (some "Query") [[.spread "user" [] 0, userField]] ∧
      ¬ Undisturbed userSchema [] (some "Query") [[userField, .spread "user" [] 0]] := by
  constructor
  · intro h
    have hkeys := congrArg (Option.map (List.map (·.key))) h.typed
    exact absurd hkeys (by decide +kernel)
  · intro h
    obtain ⟨l, hl, hnodes⟩ : ∃ l, merge? [] [[userField, .spread "user" [] 0]] = some l ∧
        .fragmentSpread ∉ (l.annotate userSchema (some "Query")).map (·.node.kind) :=
      ⟨_, rfl, by decide +kernel⟩
    obtain ⟨level, entry, hlevel, hentry, -⟩ := h.entered l hl [] ⟨"user", [], 0⟩
      ⟨_, List.mem_singleton_self _,
        .here (.undefinedSpread (List.mem_cons_of_mem _ List.mem_cons_self) rfl)⟩
    cases hlevel
    exact hnodes (List.mem_map_of_mem hentry)

end OperationClasses.Selection
