import OperationClasses.Proofs.Selection.TypedLevels

/-!
# Lead types

A merged level is read under one type, its lead: the type that the first occurrence of the key
above is found to have. The selection sets of the level may stand below other occurrences, whose
own types differ. So where every field is declared by the type it is written under, it can still
be missed: exactly when it is the first of its key, stands directly in a selection set of another
type than the lead, and the lead does not declare it.
-/
namespace OperationClasses.Selection

open Syntax

/-- The type of the selections below an occurrence that is written under a given type. -/
def ownType (s : Schema) (parent? : Option String) : Occurrence → Option String
  | .field node condition? => childParent? (fieldType s (condition?.or parent?) node.name)
  | .undefinedSpread _ => none

/-- A selection set with the type it is written under is reached from another one. -/
inductive Reached (s : Schema) (fragments : Fragments) :
    Option String → List Syntax.Selection → Option String → List Syntax.Selection → Prop where
  | here (parent? : Option String) (set : List Syntax.Selection) :
      Reached s fragments parent? set parent? set
  | inside {parent? parent'? : Option String} {set inner set' : List Syntax.Selection}
      {o : Occurrence} : Occurs fragments none set o → o.set? = some inner →
      Reached s fragments (ownType s parent? o) inner parent'? set' →
      Reached s fragments parent? set parent'? set'

/-- Every field that is reached is declared by the type it is written under: the condition of
the innermost fragment around it, or else the type of its selection set. -/
def Declared (s : Schema) (fragments : Fragments) (parent? : Option String)
    (set : List Syntax.Selection) : Prop :=
  ∀ parent'? set' node condition?, Reached s fragments parent? set parent'? set' →
    Occurs fragments none set' (.field node condition?) →
    ∃ t, fieldType s (condition?.or parent'?) node.name = .ok t

theorem Declared.below {s : Schema} {fragments : Fragments} {parent? : Option String}
    {set inner : List Syntax.Selection} (h : Declared s fragments parent? set) {o : Occurrence}
    (ho : Occurs fragments none set o) (hset : o.set? = some inner) :
    Declared s fragments (ownType s parent? o) inner :=
  fun parent'? set' node condition? hreached =>
    h parent'? set' node condition? (.inside ho hset hreached)

/-- Whether all fields are declared down to a given depth, which there is nothing below. -/
def declaredWithin (s : Schema) (fragments : Fragments) :
    ℕ → Option String → List Syntax.Selection → Bool
  | 0, _, _ => false
  | depth + 1, parent?, set => (flatten fragments set).all fun
    | .undefinedSpread _ => true
    | .field node condition? =>
      let type := fieldType s (condition?.or parent?) node.name
      type.toBool && node.selections?.all (declaredWithin s fragments depth (childParent? type))

theorem declared_of_declaredWithin {s : Schema} {fragments : Fragments} (depth : ℕ)
    {parent? : Option String} {set : List Syntax.Selection}
    (h : declaredWithin s fragments depth parent? set) : Declared s fragments parent? set := by
  intro parent'? set' node condition? hreached ho
  induction hreached generalizing depth with
  | here parent? set =>
    cases depth with
    | zero => simp [declaredWithin] at h
    | succ depth =>
      have hall := List.all_eq_true.mp h _ (mem_flatten_iff.mpr ho)
      simp only [Bool.and_eq_true] at hall
      cases htype : fieldType s (condition?.or parent?) node.name with
      | ok t => exact ⟨t, rfl⟩
      | error fault => simp [htype, Except.toBool] at hall
  | @inside parent? _ set inner _ o hoccurs hset _ ih =>
    cases depth with
    | zero => simp [declaredWithin] at h
    | succ depth =>
      have hall := List.all_eq_true.mp h _ (mem_flatten_iff.mpr hoccurs)
      cases o with
      | undefinedSpread => cases hset
      | field outer c =>
        have hinner : outer.selections? = some inner := hset
        simp only [Bool.and_eq_true, hinner, Option.all_some] at hall
        exact ih depth hall.2 ho

/-- A selection set and the type it is written under. -/
abbrev Owned := Option String × List Syntax.Selection

/-- The occurrences at a merged level, each with the type its selection set is written under. -/
def ownedOccurrences (fragments : Fragments) (owned : List Owned) :
    List (Option String × Occurrence) :=
  owned.flatMap fun p => (flatten fragments p.2).map fun o => (p.1, o)

/-- The first occurrence of a key. -/
def firstOf (fragments : Fragments) (owned : List Owned) (key : String) :
    Option (Option String × Occurrence) :=
  (ownedOccurrences fragments owned).find? (·.2.key = key)

/-- The selection sets below a key, each with the type it is written under. -/
def ownedBelow (s : Schema) (fragments : Fragments) (owned : List Owned) (key : String) :
    List Owned :=
  ((ownedOccurrences fragments owned).filter (·.2.key = key)).filterMap fun p =>
    p.2.set?.map fun inner => (ownType s p.1 p.2, inner)

/-- A merged level, with its lead, is reached from another one. -/
inductive MergedBelow (s : Schema) (fragments : Fragments) :
    Option String → List Owned → Option String → List Owned → Prop where
  | here (lead? : Option String) (owned : List Owned) :
      MergedBelow s fragments lead? owned lead? owned
  | inside {lead? lead'? parent? : Option String} {owned owned' : List Owned} {key : String}
      {o : Occurrence} : firstOf fragments owned key = some (parent?, o) →
      MergedBelow s fragments (ownType s lead? o) (ownedBelow s fragments owned key) lead'? owned' →
      MergedBelow s fragments lead? owned lead'? owned'

/-- The lead of a level declares the first fields of their keys that are written directly in a
selection set of another type. -/
def LeadDeclares (s : Schema) (fragments : Fragments) (lead? : Option String)
    (owned : List Owned) : Prop :=
  ∀ key parent? node,
    firstOf fragments owned key = some (parent?, .field node none) →
    parent? ≠ lead? → ∃ t, fieldType s lead? node.name = .ok t

theorem map_snd_ownedOccurrences (fragments : Fragments) (owned : List Owned) :
    (ownedOccurrences fragments owned).map (·.2) = levelOccurrences fragments (owned.map (·.2)) := by
  simp [ownedOccurrences, levelOccurrences, List.map_flatMap, List.flatMap_map]

theorem mem_ownedOccurrences {fragments : Fragments} {owned : List Owned}
    {p : Option String × Occurrence} :
    p ∈ ownedOccurrences fragments owned ↔
      ∃ set, (p.1, set) ∈ owned ∧ Occurs fragments none set p.2 := by
  obtain ⟨parent?, o⟩ := p
  simp only [ownedOccurrences, List.mem_flatMap, List.mem_map, Prod.mk.injEq, mem_flatten_iff]
  constructor
  · rintro ⟨⟨_, set⟩, hmem, _, ho, rfl, rfl⟩
    exact ⟨set, hmem, ho⟩
  · rintro ⟨set, hmem, ho⟩
    exact ⟨(parent?, set), hmem, o, ho, rfl, rfl⟩

theorem map_snd_ownedBelow (s : Schema) (fragments : Fragments) (owned : List Owned)
    (key : String) :
    (ownedBelow s fragments owned key).map (·.2) =
      (groupOf (levelOccurrences fragments (owned.map (·.2))) key).sets := by
  rw [ownedBelow, groupOf, ← map_snd_ownedOccurrences, List.filter_map, List.filterMap_map,
    List.map_filterMap]
  congr 1
  funext p
  simp [Function.comp_def]

theorem mem_ownedBelow {s : Schema} {fragments : Fragments} {owned : List Owned} {key : String}
    {p : Owned} (h : p ∈ ownedBelow s fragments owned key) :
    ∃ q ∈ owned, ∃ o, Occurs fragments none q.2 o ∧ o.set? = some p.2 ∧ p.1 = ownType s q.1 o := by
  obtain ⟨⟨parent?, o⟩, hmem, hp⟩ := List.mem_filterMap.mp h
  obtain ⟨inner, hset, rfl⟩ := Option.map_eq_some_iff.mp hp
  obtain ⟨set, howned, ho⟩ := mem_ownedOccurrences.mp (List.mem_of_mem_filter hmem)
  exact ⟨(parent?, set), howned, o, ho, hset, rfl⟩

theorem exists_firstOf {fragments : Fragments} {owned : List Owned} {key : String}
    (h : key ∈ keys (levelOccurrences fragments (owned.map (·.2)))) :
    ∃ parent? o, firstOf fragments owned key = some (parent?, o) := by
  rw [← map_snd_ownedOccurrences] at h
  obtain ⟨o, ho, hkey⟩ := mem_keys.mp h
  obtain ⟨p, hp, rfl⟩ := List.mem_map.mp ho
  obtain ⟨⟨parent?, first⟩, hfirst⟩ := Option.isSome_iff_exists.mp
    (List.find?_isSome.mpr ⟨p, hp, by simpa using hkey⟩ : (firstOf fragments owned key).isSome)
  exact ⟨parent?, first, hfirst⟩

theorem firstOf_spec {fragments : Fragments} {owned : List Owned} {key : String}
    {parent? : Option String} {o : Occurrence}
    (h : firstOf fragments owned key = some (parent?, o)) :
    o.key = key ∧ (∃ set, (parent?, set) ∈ owned ∧ Occurs fragments none set o) ∧
      key ∈ keys (levelOccurrences fragments (owned.map (·.2))) ∧
      (groupOf (levelOccurrences fragments (owned.map (·.2))) key).origin = o.origin := by
  have hkey : o.key = key := by simpa using List.find?_some h
  have hmem := List.mem_of_find?_eq_some h
  refine ⟨hkey, mem_ownedOccurrences.mp hmem, ?_, ?_⟩
  · rw [← map_snd_ownedOccurrences]
    exact mem_keys.mpr ⟨o, List.mem_map_of_mem hmem, hkey⟩
  · have hfind : (levelOccurrences fragments (owned.map (·.2))).find? (·.key = key) = some o := by
      rw [← map_snd_ownedOccurrences, List.find?_map]
      exact congrArg (Option.map Prod.snd) h
    simp [groupOf, hfind]

/-- Where every spread is defined, the first occurrence of a key is a field. -/
theorem firstOf_field {fragments : Fragments} {owned : List Owned}
    (hdefined : ∀ p ∈ owned, Defined fragments p.2) {key : String} {parent? : Option String}
    {o : Occurrence} (h : firstOf fragments owned key = some (parent?, o)) :
    ∃ node condition?, o = .field node condition? := by
  obtain ⟨-, ⟨set, howned, ho⟩, -, -⟩ := firstOf_spec h
  cases o with
  | field node condition? => exact ⟨node, condition?, rfl⟩
  | undefinedSpread node =>
    obtain ⟨hmeets, hnone⟩ := ho.meets_undefined rfl
    have := hdefined _ howned node.name hmeets
    rw [hnone] at this
    cases this

/-- A level without selection sets has nothing to declare. -/
theorem leadDeclares_of_nil {s : Schema} {fragments : Fragments} {lead? lead'? : Option String}
    {owned' : List Owned} (h : MergedBelow s fragments lead? [] lead'? owned') :
    LeadDeclares s fragments lead'? owned' := by
  cases h with
  | here =>
    intro key parent? node hfirst
    cases hfirst
  | inside hfirst => cases hfirst

theorem accounted_eq_ok {type : Except FieldFault TypeRef} {t : TypeRef} :
    accounted type = .ok t ↔ type = .ok t := by
  cases type <;> simp [accounted, Except.mapError]

/-- The first occurrence of a key finds its type exactly when the lead of the level declares it,
should it need to. -/
theorem exists_fieldType_iff {s : Schema} {fragments : Fragments} {lead? parent? : Option String}
    {owned : List Owned} (hdeclared : ∀ p ∈ owned, Declared s fragments p.1 p.2)
    {key : String} {node : FieldNode} {condition? : Option String}
    (hfirst : firstOf fragments owned key = some (parent?, .field node condition?)) :
    (∃ t, fieldType s (condition?.or lead?) node.name = .ok t) ↔
      (condition? = none → parent? ≠ lead? → ∃ t, fieldType s lead? node.name = .ok t) := by
  obtain ⟨-, ⟨set, howned, ho⟩, -, -⟩ := firstOf_spec hfirst
  have hown := hdeclared _ howned _ _ _ _ (.here parent? set) ho
  cases condition? with
  | some condition => simpa using hown
  | none =>
    by_cases hparent : parent? = lead?
    · subst hparent
      simpa using hown
    · simp [hparent]

/-- Typing a merged level finds every type exactly when the leads declare what they must. -/
theorem forall_within_iff_leadDeclares {s : Schema} {fragments : Fragments} {fuel : ℕ}
    {owned : List Owned} {l : Level} (h : mergeWithin fragments fuel (owned.map (·.2)) = some l)
    (hdefined : ∀ p ∈ owned, Defined fragments p.2)
    (hdeclared : ∀ p ∈ owned, Declared s fragments p.1 p.2) (lead? : Option String) :
    (∀ f, Within (l.annotate s lead?) f → ∃ t, f.type = .ok t) ↔
      ∀ lead'? owned', MergedBelow s fragments lead? owned lead'? owned' →
        LeadDeclares s fragments lead'? owned' := by
  induction fuel generalizing owned l lead? with
  | zero => simp [mergeWithin] at h
  | succ fuel ih =>
    have htypes := forall₂_types (s := s) h lead?
    have hbelow : ∀ key, ∀ p ∈ ownedBelow s fragments owned key,
        Defined fragments p.2 ∧ Declared s fragments p.1 p.2 := by
      intro key p hp
      obtain ⟨q, hq, o, ho, hset, howner⟩ := mem_ownedBelow hp
      exact ⟨(hdefined q hq).below ho hset, howner ▸ (hdeclared q hq).below ho hset⟩
    constructor
    · intro hall lead'? owned' hreached
      cases hreached with
      | here =>
        intro key parent? node hfirst _
        obtain ⟨-, -, hkey, horigin⟩ := firstOf_spec hfirst
        obtain ⟨f, hf, htyped⟩ := exists_mem_of_forall₂ htypes hkey
        obtain ⟨t, ht⟩ := hall f (.here hf)
        exact ⟨t, accounted_eq_ok.mp (htyped.type_eq horigin ▸ ht)⟩
      | @inside _ _ parent? _ _ key o hfirst hrest =>
        obtain ⟨node, condition?, rfl⟩ := firstOf_field hdefined hfirst
        obtain ⟨-, -, hkey, horigin⟩ := firstOf_spec hfirst
        obtain ⟨f, hf, htyped⟩ := exists_mem_of_forall₂ htypes hkey
        rcases htyped.children_cases horigin with ⟨hnil, -⟩ | ⟨inner, hinner, hchildren⟩
        · rw [← map_snd_ownedBelow s, List.map_eq_nil_iff] at hnil
          exact leadDeclares_of_nil (hnil ▸ hrest)
        · rw [← map_snd_ownedBelow s] at hinner
          exact (ih hinner (fun p hp => (hbelow key p hp).1) (fun p hp => (hbelow key p hp).2) _).mp
            (fun g hg => hall g (.inside hf hchildren hg)) _ _ hrest
    · intro hleads f hf
      cases hf with
      | here hmem =>
        obtain ⟨key, hkey, htyped⟩ := exists_mem_of_forall₂ htypes.flip hmem
        obtain ⟨parent?, o, hfirst⟩ := exists_firstOf hkey
        obtain ⟨node, condition?, rfl⟩ := firstOf_field hdefined hfirst
        obtain ⟨-, -, -, horigin⟩ := firstOf_spec hfirst
        obtain ⟨t, ht⟩ := (exists_fieldType_iff hdeclared hfirst).mpr fun hnone =>
          hleads _ _ (.here lead? owned) key parent? node (hnone ▸ hfirst)
        exact ⟨t, (htyped.type_eq horigin).trans (accounted_eq_ok.mpr ht)⟩
      | inside hmem hchildren hwithin =>
        obtain ⟨key, hkey, htyped⟩ := exists_mem_of_forall₂ htypes.flip hmem
        obtain ⟨parent?, o, hfirst⟩ := exists_firstOf hkey
        obtain ⟨node, condition?, rfl⟩ := firstOf_field hdefined hfirst
        obtain ⟨-, -, -, horigin⟩ := firstOf_spec hfirst
        rcases htyped.children_cases horigin with ⟨-, hnone⟩ | ⟨inner, hinner, hchildren'⟩
        · cases hchildren.symm.trans hnone
        · rw [← map_snd_ownedBelow s] at hinner
          cases hchildren.symm.trans hchildren'
          exact (ih hinner (fun p hp => (hbelow key p hp).1) (fun p hp => (hbelow key p hp).2) _).mpr
            (fun _ _ hreached => hleads _ _ (.inside hfirst hreached)) f hwithin

end OperationClasses.Selection
