import OperationClasses.Proofs.Naming.Names
import OperationClasses.Proofs.Selection.CollectFields

/-!
# Levels of typed fields

What the typed fields of a merged level are: for every response key, in the order of the first
occurrences, the field that the first occurrence names, above the merged selection sets of all
occurrences. The paths of response keys through the tree are the chains of occurrences that stand
inside each other.
-/
namespace OperationClasses.Selection

open Syntax

theorem exists_mem_of_forall₂ {α β : Type} {R : α → β → Prop} {as : List α} {bs : List β}
    (h : List.Forall₂ R as bs) {a : α} (ha : a ∈ as) : ∃ b ∈ bs, R a b := by
  induction h with
  | nil => simp at ha
  | cons hr _ ih =>
    rcases List.mem_cons.mp ha with rfl | ha
    · exact ⟨_, by simp, hr⟩
    · obtain ⟨b, hb, hr'⟩ := ih ha
      exact ⟨b, List.mem_cons_of_mem _ hb, hr'⟩

theorem forall₂_comp {α β γ : Type} {R : α → β → Prop} {S : β → γ → Prop} {as : List α}
    {bs : List β} {cs : List γ} (h : List.Forall₂ R as bs) (h' : List.Forall₂ S bs cs) :
    List.Forall₂ (fun a c => ∃ b ∈ bs, R a b ∧ S b c) as cs := by
  induction h generalizing cs with
  | nil =>
    cases h'
    exact .nil
  | cons hr _ ih =>
    cases h' with
    | cons hs h' =>
      exact .cons ⟨_, List.mem_cons_self, hr, hs⟩
        ((ih h').imp fun _ _ ⟨b, hb, hrs⟩ => ⟨b, List.mem_cons_of_mem _ hb, hrs⟩)

/-- The typed field that a group becomes. -/
inductive Types (s : Schema) (fragments : Fragments) (fuel : ℕ) (parent? : Option String)
    (g : Group) : TypedField → Prop where
  | leaf {node : FieldNode} {condition? : Option String} :
      g.origin = .field node condition? → g.sets = [] →
      Types s fragments fuel parent? g
        (.leaf (.field node) g.key (accounted (fieldType s (condition?.or parent?) node.name)))
  | object {node : FieldNode} {condition? : Option String} {inner : Level} :
      g.origin = .field node condition? → g.sets ≠ [] →
      mergeWithin fragments fuel g.sets = some inner →
      Types s fragments fuel parent? g
        (.object (.field node) g.key (accounted (fieldType s (condition?.or parent?) node.name))
          (inner.annotate s (childParent? (fieldType s (condition?.or parent?) node.name))))
  | undefinedSpread {node : SpreadNode} : g.origin = .undefinedSpread node →
      Types s fragments fuel parent? g
        (.leaf (.fragmentSpread node) g.key
          (.error (FieldFault.undefinedFragment g.key).unresolved))

theorem types_annotate {s : Schema} {fragments : Fragments} {fuel : ℕ} {g : Group} {m : Merged}
    (h : member fragments fuel g = some m) (hkey : g.origin.key = g.key)
    (parent? : Option String) : Types s fragments fuel parent? g (annotate s parent? m) := by
  unfold member at h
  split at h
  · next node horigin =>
    cases h
    have hnode : node.name = g.key := by rw [← hkey, horigin, Origin.key]
    rw [annotate, hnode]
    exact .undefinedSpread horigin
  · next node condition? horigin =>
    have hnode : node.key = g.key := by rw [← hkey, horigin, Origin.key]
    split at h
    · next hempty =>
      cases h
      rw [annotate, hnode]
      exact .leaf horigin (List.isEmpty_iff.mp hempty)
    · next hempty =>
      obtain ⟨inner, hinner, rfl⟩ := Option.map_eq_some_iff.mp h
      rw [annotate, hnode]
      exact .object horigin (fun hnil => hempty (List.isEmpty_iff.mpr hnil)) hinner

/-- The typed fields of a level stand for its response keys in their order. -/
theorem forall₂_types {s : Schema} {fragments : Fragments} {fuel : ℕ}
    {sets : List (List Syntax.Selection)} {l : Level}
    (h : mergeWithin fragments (fuel + 1) sets = some l) (parent? : Option String) :
    List.Forall₂ (fun key f =>
      Types s fragments fuel parent? (groupOf (levelOccurrences fragments sets) key) f)
      (keys (levelOccurrences fragments sets)) (l.annotate s parent?) := by
  rw [Level.annotate, annotateAll_eq_map, List.forall₂_map_right_iff]
  exact (mergeWithin_succ_iff.mp h).2.imp fun key _ hm =>
    types_annotate hm (key_origin_groupOf _ key) parent?

theorem Types.key_eq {s : Schema} {fragments : Fragments} {fuel : ℕ} {parent? : Option String}
    {g : Group} {f : TypedField} (h : Types s fragments fuel parent? g f) : f.key = g.key := by
  cases h <;> rfl

theorem Types.type_eq {s : Schema} {fragments : Fragments} {fuel : ℕ} {parent? : Option String}
    {g : Group} {f : TypedField} (h : Types s fragments fuel parent? g f) {node : FieldNode}
    {condition? : Option String} (horigin : g.origin = .field node condition?) :
    f.type = accounted (fieldType s (condition?.or parent?) node.name) := by
  cases h with
  | leaf h =>
    cases h.symm.trans horigin
    rfl
  | object h =>
    cases h.symm.trans horigin
    rfl
  | undefinedSpread h => cases h.symm.trans horigin

/-- A field has fields below it exactly when its key has selection sets. -/
theorem Types.children_cases {s : Schema} {fragments : Fragments} {fuel : ℕ}
    {parent? : Option String} {g : Group} {f : TypedField}
    (h : Types s fragments fuel parent? g f) {node : FieldNode} {condition? : Option String}
    (horigin : g.origin = .field node condition?) :
    g.sets = [] ∧ f.children? = none ∨
      ∃ inner, mergeWithin fragments fuel g.sets = some inner ∧ f.children? = some
        (inner.annotate s (childParent? (fieldType s (condition?.or parent?) node.name))) := by
  cases h with
  | leaf _ hnil => exact .inl ⟨hnil, rfl⟩
  | object h _ hinner =>
    cases h.symm.trans horigin
    exact .inr ⟨_, hinner, rfl⟩
  | undefinedSpread h => cases h.symm.trans horigin

theorem map_key_annotate {s : Schema} {fragments : Fragments} {fuel : ℕ}
    {sets : List (List Syntax.Selection)} {l : Level}
    (h : mergeWithin fragments (fuel + 1) sets = some l) (parent? : Option String) :
    (l.annotate s parent?).map (·.key) = keys (levelOccurrences fragments sets) := by
  have hkeys := (forall₂_types (s := s) h parent?).imp fun _ _ ht => ht.key_eq
  exact (List.forall₂_eq_eq_eq ▸ List.forall₂_map_right_iff.mpr (hkeys.imp fun _ _ => Eq.symm)).symm

theorem mem_levelOccurrences {fragments : Fragments} {sets : List (List Syntax.Selection)}
    {o : Occurrence} :
    o ∈ levelOccurrences fragments sets ↔ ∃ set ∈ sets, Occurs fragments none set o := by
  simp [levelOccurrences, mem_flatten_iff]

/-- A key of a level has a first occurrence, which says what its group stands for. -/
theorem exists_first_occurrence {os : List Occurrence} {key : String} (h : key ∈ keys os) :
    ∃ first, os.find? (·.key = key) = some first ∧ first.key = key ∧
      (groupOf os key).origin = first.origin := by
  obtain ⟨o, ho, hkey⟩ := mem_keys.mp h
  obtain ⟨first, hfirst⟩ := Option.isSome_iff_exists.mp
    (List.find?_isSome.mpr ⟨o, ho, by simpa using hkey⟩ : (os.find? (·.key = key)).isSome)
  exact ⟨first, hfirst, by simpa using List.find?_some hfirst, by simp [groupOf, hfirst]⟩

theorem exists_origin_groupOf {os : List Occurrence} {key : String} (h : key ∈ keys os) :
    ∃ o ∈ os, o.key = key ∧ (groupOf os key).origin = o.origin := by
  obtain ⟨first, hfirst, hkey, horigin⟩ := exists_first_occurrence h
  exact ⟨first, List.mem_of_find?_eq_some hfirst, hkey, horigin⟩

/-- Every spread that the selections meet is defined. -/
def Defined (fragments : Fragments) (selections : List Syntax.Selection) : Prop :=
  ∀ name, Meets fragments selections name → (fragments.find? name).isSome

theorem Defined.below {fragments : Fragments} {selections inner : List Syntax.Selection}
    {c : Option String} {o : Occurrence} (h : Defined fragments selections)
    (ho : Occurs fragments c selections o) (hset : o.set? = some inner) :
    Defined fragments inner :=
  fun name hmeets => h name (ho.meets_of_meets hset hmeets)

/-- Where all spreads of the text are defined, those that are met are. -/
theorem defined_of_spreadNames {fragments : Fragments} {selections : List Syntax.Selection}
    (hselections : ∀ name ∈ spreadNamesAll selections, (fragments.find? name).isSome)
    (hfragments : ∀ f ∈ fragments, ∀ name ∈ spreadNamesAll f.selections,
      (fragments.find? name).isSome) : Defined fragments selections := by
  intro name h
  rcases h.mem_spreadNames with hname | ⟨f, hf, hname⟩
  · exact hselections name hname
  · exact hfragments f hf name hname

theorem Occurs.meets_undefined {fragments : Fragments} {c : Option String}
    {selections : List Syntax.Selection} {o : Occurrence} (h : Occurs fragments c selections o)
    {node : SpreadNode} (ho : o = .undefinedSpread node) :
    Meets fragments selections node.name ∧ fragments.find? node.name = none := by
  induction h with
  | field => cases ho
  | undefinedSpread hmem hf =>
    cases ho
    exact ⟨.here (.here hmem), hf⟩
  | inline hmem _ ih => exact ⟨(ih ho).1.of_spreads fun n hn => .inline hmem hn, (ih ho).2⟩
  | spread hmem hf _ ih => exact ⟨.inside (.here hmem) hf (ih ho).1, (ih ho).2⟩

/-- Where every spread is defined, the first occurrence of a key is a field. -/
theorem exists_field_of_mem_keys {fragments : Fragments} {sets : List (List Syntax.Selection)}
    (hdefined : ∀ set ∈ sets, Defined fragments set) {key : String}
    (h : key ∈ keys (levelOccurrences fragments sets)) :
    ∃ set ∈ sets, ∃ node c, Occurs fragments none set (.field node c) ∧ node.key = key ∧
      (groupOf (levelOccurrences fragments sets) key).origin = .field node c := by
  obtain ⟨o, ho, hkey, horigin⟩ := exists_origin_groupOf h
  obtain ⟨set, hset, hoccurs⟩ := mem_levelOccurrences.mp ho
  cases o with
  | field node c => exact ⟨set, hset, node, c, hoccurs, hkey, horigin⟩
  | undefinedSpread node =>
    obtain ⟨hmeets, hnone⟩ := hoccurs.meets_undefined rfl
    have := hdefined set hset node.name hmeets
    rw [hnone] at this
    cases this

/-- What selections pass on to the selections below them, the merged ones below a key have. -/
theorem forall_sets_below {fragments : Fragments} {I : List Syntax.Selection → Prop}
    (hbelow : ∀ set inner o, I set → Occurs fragments none set o → o.set? = some inner → I inner)
    {sets : List (List Syntax.Selection)} (h : ∀ set ∈ sets, I set) (key : String) :
    ∀ inner ∈ (groupOf (levelOccurrences fragments sets) key).sets, I inner := by
  intro inner hinner
  obtain ⟨set, hset, o, ho, -, hoset⟩ := mem_sets_levelOccurrences hinner
  exact hbelow set inner o (h set hset) ho hoset

/-- Response keys of fields that stand inside each other. -/
inductive KeyChain (fragments : Fragments) : List Syntax.Selection → List String → Prop where
  | last {selections : List Syntax.Selection} {node : FieldNode} {c : Option String} :
      Occurs fragments none selections (.field node c) →
      KeyChain fragments selections [node.key]
  | cons {selections inner : List Syntax.Selection} {node : FieldNode} {c : Option String}
      {path : List String} :
      Occurs fragments none selections (.field node c) → node.selections? = some inner →
      KeyChain fragments inner path → KeyChain fragments selections (node.key :: path)

mutual

/-- The paths of response keys that begin with a typed field. -/
def keyPaths : TypedField → List (List String)
  | .leaf _ key _ => [[key]]
  | .object _ key _ children => [key] :: (keyPathsAll children).map (key :: ·)

def keyPathsAll : List TypedField → List (List String)
  | [] => []
  | f :: rest => keyPaths f ++ keyPathsAll rest

end

/-- A field stands in a level of typed fields or below it. -/
inductive Within : List TypedField → TypedField → Prop where
  | here {fields : List TypedField} {f : TypedField} : f ∈ fields → Within fields f
  | inside {fields children : List TypedField} {f g : TypedField} :
      g ∈ fields → g.children? = some children → Within children f → Within fields f

/-- The selections and what stands below them have names for response keys. -/
def Named (fragments : Fragments) (selections : List Syntax.Selection) : Prop :=
  ∀ path, KeyChain fragments selections path → ∀ key ∈ path, isName key

theorem Named.below {fragments : Fragments} {selections inner : List Syntax.Selection}
    (h : Named fragments selections) {o : Occurrence} (ho : Occurs fragments none selections o)
    (hset : o.set? = some inner) : Named fragments inner := by
  intro path hpath key hkey
  cases o with
  | undefinedSpread => cases hset
  | field node c => exact h _ (.cons ho hset hpath) key (List.mem_cons_of_mem _ hkey)

/-- What is asked of selections so that every response path is one of field names. -/
structure Sound (fragments : Fragments) (selections : List Syntax.Selection) : Prop where
  defined : Defined fragments selections
  named : Named fragments selections

theorem Sound.below {fragments : Fragments} {selections inner : List Syntax.Selection}
    {o : Occurrence} (h : Sound fragments selections) (ho : Occurs fragments none selections o)
    (hset : o.set? = some inner) : Sound fragments inner :=
  ⟨h.defined.below ho hset, h.named.below ho hset⟩

/-- Every field of the tree stands for a key of a merged level whose selection sets have what
is passed on from above. -/
theorem exists_types_of_within {s : Schema} {fragments : Fragments} {fuel : ℕ}
    {sets : List (List Syntax.Selection)} {l : Level}
    (h : mergeWithin fragments fuel sets = some l) {I : List Syntax.Selection → Prop}
    (hbelow : ∀ set inner o, I set → Occurs fragments none set o → o.set? = some inner → I inner)
    (hsets : ∀ set ∈ sets, I set) {parent? : Option String} {f : TypedField}
    (hf : Within (l.annotate s parent?) f) :
    ∃ fuel' parent'? sets' key, (∀ set ∈ sets', I set) ∧
      key ∈ keys (levelOccurrences fragments sets') ∧
      Types s fragments fuel' parent'? (groupOf (levelOccurrences fragments sets') key) f := by
  induction fuel generalizing sets l parent? f with
  | zero => simp [mergeWithin] at h
  | succ fuel ih =>
    have htypes := (forall₂_types (s := s) h parent?).flip
    cases hf with
    | here hmem =>
      obtain ⟨key, hkey, htyped⟩ := exists_mem_of_forall₂ htypes hmem
      exact ⟨fuel, parent?, sets, key, hsets, hkey, htyped⟩
    | inside hmem hchildren hwithin =>
      obtain ⟨key, -, htyped⟩ := exists_mem_of_forall₂ htypes hmem
      cases htyped with
      | leaf => cases hchildren
      | object _ _ hinner =>
        cases hchildren
        exact ih hinner (forall_sets_below hbelow hsets key) hwithin
      | undefinedSpread => cases hchildren

mutual

/-- The response keys in a selection and below it, in the order of the text. -/
def textKeys : Syntax.Selection → List String
  | .field alias? name _ _ inner? _ =>
    alias?.getD name ::
      match inner? with
      | some inner => textKeysAll inner
      | none => []
  | .inline _ _ inner => textKeysAll inner
  | .spread .. => []

def textKeysAll : List Syntax.Selection → List String
  | [] => []
  | s :: rest => textKeys s ++ textKeysAll rest

end

theorem mem_textKeysAll {selections : List Syntax.Selection} {key : String} :
    key ∈ textKeysAll selections ↔ ∃ s ∈ selections, key ∈ textKeys s := by
  induction selections with
  | nil => simp [textKeysAll]
  | cons s rest ih => simp [textKeysAll, ih]

theorem textKeys_subset {s : Syntax.Selection} {selections : List Syntax.Selection}
    (h : s ∈ selections) : textKeys s ⊆ textKeysAll selections :=
  fun _ hkey => mem_textKeysAll.mpr ⟨s, h, hkey⟩

theorem StepAt.key_mem {fragments : Fragments} {c : Option String}
    {selections : List Syntax.Selection} {step : Expansion.Step Occurrence}
    (h : StepAt fragments c selections step) {node : FieldNode} {c' : Option String}
    (hstep : step = .say (.field node c')) :
    node.key ∈ textKeysAll selections ∧
      ∀ inner, node.selections? = some inner → textKeysAll inner ⊆ textKeysAll selections := by
  induction h with
  | @field _ _ _ _ _ _ inner? _ hmem =>
    cases hstep
    have hsub := textKeys_subset hmem
    cases inner? with
    | none => exact ⟨hsub (by rw [textKeys]; exact List.mem_cons_self), fun _ h => by cases h⟩
    | some inner =>
      rw [textKeys, List.cons_subset] at hsub
      exact ⟨hsub.1, fun _ h => Option.some.inj h ▸ hsub.2⟩
  | undefinedSpread => cases hstep
  | spread => cases hstep
  | inline hmem _ ih =>
    obtain ⟨hkey, hinner⟩ := ih hstep
    have hsub := textKeys_subset hmem
    rw [textKeys] at hsub
    exact ⟨hsub hkey, fun inner h => List.Subset.trans (hinner inner h) hsub⟩

/-- Where all keys of the text are names, those of all response paths are. -/
theorem named_of_textKeys {fragments : Fragments} {selections : List Syntax.Selection}
    (hselections : ∀ key ∈ textKeysAll selections, isName key)
    (hfragments : ∀ f ∈ fragments, ∀ key ∈ textKeysAll f.selections, isName key) :
    Named fragments selections := by
  have hoccurs : ∀ {set : List Syntax.Selection}, (∀ key ∈ textKeysAll set, isName key) →
      ∀ {node c}, Occurs fragments none set (.field node c) →
      isName node.key ∧
        ∀ inner, node.selections? = some inner → ∀ k ∈ textKeysAll inner, isName k := by
    intro set hset node c ho
    rcases ho.stands with hstep | ⟨_, f, _, hf, hstep⟩
    · obtain ⟨hkey, hinner⟩ := hstep.key_mem rfl
      exact ⟨hset _ hkey, fun inner h k hk => hset k (hinner inner h hk)⟩
    · obtain ⟨hkey, hinner⟩ := hstep.key_mem rfl
      have hall := hfragments f (Fragments.find?_mem hf)
      exact ⟨hall _ hkey, fun inner h k hk => hall k (hinner inner h hk)⟩
  intro path hpath
  induction hpath with
  | last ho => simpa using (hoccurs hselections ho).1
  | cons ho hset _ ih =>
    obtain ⟨hkey, hinner⟩ := hoccurs hselections ho
    exact List.forall_mem_cons.mpr ⟨hkey, ih (hinner _ hset)⟩

/-- A type that the schema declares is a written one. -/
theorem written_of_accounted {s : Schema} (hs : s.Written) {parent? : Option String}
    {name : String} {t : TypeRef} (h : accounted (fieldType s parent? name) = .ok t) :
    t.Written := by
  cases htype : fieldType s parent? name with
  | error fault =>
    rw [htype] at h
    cases h
  | ok t' =>
    rw [htype] at h
    cases h
    unfold fieldType at htype
    split at htype
    · cases htype
      exact .nonNullNamed (by decide)
    · split at htype
      · cases htype
      · split at htype
        · cases htype
        · next fs hfs =>
          split at htype
          · cases htype
          · next f hf =>
            cases htype
            exact hs.of_fields? hfs (List.mem_of_find?_eq_some hf)

end OperationClasses.Selection
