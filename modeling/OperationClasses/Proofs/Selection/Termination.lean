import Mathlib.Algebra.BigOperators.Group.Finset.Basic
import Mathlib.Algebra.Order.BigOperators.Group.Finset
import OperationClasses.Proofs.Selection.Grouping

/-!
# Merging ends

When no fragment leads back to itself through a field, merging needs no more levels than its
bound allows, and any larger bound gives the same tree. The levels below a selection set are
counted by its own depth and that of the fragments it uses, each once: below a field of a fragment
that fragment is not used any more.
-/
namespace OperationClasses.Selection

open Syntax Expansion

/-- The field of the answer that a group stands for. -/
def member (fragments : Fragments) (fuel : ℕ) (g : Group) : Option Merged :=
  match g.origin with
  | .undefinedSpread node => some (.undefinedSpread node)
  | .field node condition? =>
    if g.sets.isEmpty then some (.leaf node condition?)
    else (mergeWithin fragments fuel g.sets).map fun l =>
      .object node condition? l.spreads l.members

/-- The occurrences at the level of several selection sets. -/
def levelOccurrences (fragments : Fragments) (sets : List (List Syntax.Selection)) :
    List Occurrence := sets.flatMap (flatten fragments)

theorem mapM_eq_some_iff {α β : Type} {f : α → Option β} {as : List α} {bs : List β} :
    as.mapM f = some bs ↔ List.Forall₂ (fun a b => f a = some b) as bs := by
  induction as generalizing bs with
  | nil =>
    rw [List.mapM_nil, List.forall₂_nil_left_iff]
    exact ⟨fun h => (Option.some.inj h).symm, fun h => h ▸ rfl⟩
  | cons a as ih =>
    simp only [List.mapM_cons, Option.bind_eq_bind, Option.bind_eq_some_iff,
      List.forall₂_cons_left_iff, ih, Option.pure_def, Option.some.injEq]
    constructor
    · rintro ⟨b, hb, bs', hbs, rfl⟩
      exact ⟨b, bs', hb, hbs, rfl⟩
    · rintro ⟨b, bs', hb, hbs, rfl⟩
      exact ⟨b, hb, bs', hbs, rfl⟩

theorem mapM_map_option {α β γ : Type} (f : α → Option β) (g : β → γ) (as : List α) :
    as.mapM (fun a => (f a).map g) = (as.mapM f).map (List.map g) := by
  induction as with
  | nil => rfl
  | cons a as ih =>
    rw [List.mapM_cons, List.mapM_cons, ih]
    cases f a <;> cases as.mapM f <;> rfl

theorem mergeWithin_succ (fragments : Fragments) (fuel : ℕ) (sets : List (List Syntax.Selection)) :
    mergeWithin fragments (fuel + 1) sets =
      ((keys (levelOccurrences fragments sets)).mapM fun key =>
        member fragments fuel (groupOf (levelOccurrences fragments sets) key)).map
          fun members => ⟨undefinedSpreads (levelOccurrences fragments sets), members⟩ := by
  have hgroups : (keys (levelOccurrences fragments sets)).mapM (fun key =>
      member fragments fuel (groupOf (levelOccurrences fragments sets) key)) =
      (group (levelOccurrences fragments sets)).mapM (member fragments fuel) := by
    rw [group_eq, List.mapM_map]
    rfl
  rw [hgroups, mergeWithin, Option.map_eq_bind]
  rfl

/-- The members of a level, key by key. -/
theorem mergeWithin_succ_iff {fragments : Fragments} {fuel : ℕ}
    {sets : List (List Syntax.Selection)} {l : Level} :
    mergeWithin fragments (fuel + 1) sets = some l ↔
      l.spreads = undefinedSpreads (levelOccurrences fragments sets) ∧
      List.Forall₂ (fun key m =>
        member fragments fuel (groupOf (levelOccurrences fragments sets) key) = some m)
        (keys (levelOccurrences fragments sets)) l.members := by
  rw [mergeWithin_succ, Option.map_eq_some_iff]
  simp only [mapM_eq_some_iff]
  obtain ⟨spreads, members⟩ := l
  constructor
  · rintro ⟨_, hall, he⟩
    cases he
    exact ⟨rfl, hall⟩
  · rintro ⟨rfl, hall⟩
    exact ⟨members, hall, rfl⟩

/-- A level is merged when each of its members is. -/
theorem exists_mergeWithin_succ {fragments : Fragments} {fuel : ℕ}
    {sets : List (List Syntax.Selection)}
    (h : ∀ key, ∃ m, member fragments fuel (groupOf (levelOccurrences fragments sets) key) = some m) :
    ∃ l, mergeWithin fragments (fuel + 1) sets = some l := by
  choose f hf using h
  refine ⟨⟨_, (keys (levelOccurrences fragments sets)).map f⟩, mergeWithin_succ_iff.mpr ⟨rfl, ?_⟩⟩
  simp [List.forall₂_map_right_iff, List.forall₂_same, hf]

/-- Room for more levels changes nothing. -/
theorem mergeWithin_mono {fragments : Fragments} {fuel fuel' : ℕ}
    {sets : List (List Syntax.Selection)} {l : Level}
    (h : mergeWithin fragments fuel sets = some l) (hle : fuel ≤ fuel') :
    mergeWithin fragments fuel' sets = some l := by
  induction fuel generalizing fuel' sets l with
  | zero => simp [mergeWithin] at h
  | succ fuel ih =>
    obtain ⟨fuel', rfl⟩ : ∃ k, fuel' = k + 1 := ⟨fuel' - 1, by omega⟩
    rw [mergeWithin_succ_iff] at h ⊢
    refine ⟨h.1, h.2.imp fun key m hm => ?_⟩
    unfold member at hm ⊢
    split at hm
    · exact hm
    · by_cases hsets : (groupOf (levelOccurrences fragments sets) key).sets.isEmpty
      · simpa [hsets] using hm
      · simp only [hsets, Bool.false_eq_true, ↓reduceIte, Option.map_eq_some_iff] at hm ⊢
        obtain ⟨inner, hinner, rfl⟩ := hm
        exact ⟨inner, ih hinner (by omega), rfl⟩

theorem depthAll_le_of_mem {s : Syntax.Selection} {selections : List Syntax.Selection}
    (h : s ∈ selections) : depth s ≤ depthAll selections := by
  induction selections with
  | nil => simp at h
  | cons a rest ih =>
    rw [depthAll]
    rcases List.mem_cons.mp h with rfl | h
    · exact le_max_left _ _
    · exact (ih h).trans (le_max_right _ _)

/-- The selection set of a field that stands in a text lies deeper in that text. -/
theorem StepAt.set_below {fragments : Fragments} {c : Option String}
    {selections inner : List Syntax.Selection} {step : Step Occurrence} {o : Occurrence}
    (h : StepAt fragments c selections step) (hstep : step = .say o) (ho : o.set? = some inner) :
    depthAll inner < depthAll selections ∧
      ∀ n, Spreads inner n → SpreadsBelow selections n := by
  induction h with
  | @field c alias? selections name args ds inner? offset hmem =>
    cases hstep
    obtain rfl : inner? = some inner := ho
    have hle := depthAll_le_of_mem hmem
    rw [depth] at hle
    exact ⟨hle, fun n hn => .field hmem hn⟩
  | undefinedSpread =>
    cases hstep
    cases ho
  | spread => cases hstep
  | inline hmem _ ih =>
    obtain ⟨hlt, hbelow⟩ := ih hstep
    have hle := depthAll_le_of_mem hmem
    rw [depth] at hle
    exact ⟨hlt.trans_le hle, fun n hn => .inline hmem (hbelow n hn)⟩

/-- An occurrence stands in the selections themselves or in a fragment that they use. -/
theorem Occurs.stands {fragments : Fragments} {c : Option String}
    {selections : List Syntax.Selection} {o : Occurrence} (h : Occurs fragments c selections o) :
    StepAt fragments c selections (.say o) ∨
      ∃ name f, Meets fragments selections name ∧ fragments.find? name = some f ∧
        StepAt fragments (some f.condition) f.selections (.say o) := by
  induction h with
  | field hmem => exact .inl (.field hmem)
  | undefinedSpread hmem hf => exact .inl (.undefinedSpread hmem hf)
  | inline hmem _ ih =>
    rcases ih with hstep | ⟨name, f, hmeets, hf, hstep⟩
    · exact .inl (.inline hmem hstep)
    · exact .inr ⟨name, f, hmeets.of_spreads fun n hn => .inline hmem hn, hf, hstep⟩
  | spread hmem hf _ ih =>
    rcases ih with hstep | ⟨name, g, hmeets, hg, hstep⟩
    · exact .inr ⟨_, _, .here (.here hmem), hf, hstep⟩
    · exact .inr ⟨name, g, .inside (.here hmem) hf hmeets, hg, hstep⟩

/-- The levels of a fragment's own text; none for a name without a fragment. -/
def fragmentDepth (fragments : Fragments) (name : String) : ℕ :=
  ((fragments.find? name).map fun f => depthAll f.selections).getD 0

open Classical in
/-- The names of the fragments that selections use. -/
noncomputable def used (fragments : Fragments) (selections : List Syntax.Selection) :
    Finset String := {name ∈ fragments.names.toFinset | Meets fragments selections name}

/-- The levels of the selections and of the fragments they use. -/
noncomputable def levels (fragments : Fragments) (selections : List Syntax.Selection) : ℕ :=
  depthAll selections + ∑ name ∈ used fragments selections, fragmentDepth fragments name

theorem mem_used {fragments : Fragments} {selections : List Syntax.Selection} {name : String} :
    name ∈ used fragments selections ↔
      name ∈ fragments.names ∧ Meets fragments selections name := by
  simp [used]

/-- What is met below a field is met from where the field occurs. -/
theorem Occurs.meets_of_meets {fragments : Fragments} {c : Option String}
    {selections inner : List Syntax.Selection} {o : Occurrence}
    (h : Occurs fragments c selections o) (ho : o.set? = some inner) {name : String}
    (hname : Meets fragments inner name) : Meets fragments selections name := by
  rcases h.stands with hstep | ⟨via, f, hmeets, hf, hstep⟩
  · exact hname.of_spreads fun n hn => ((hstep.set_below rfl ho).2 n hn).spreads
  · refine hmeets.trans hf ?_
    exact hname.of_spreads fun n hn => ((hstep.set_below rfl ho).2 n hn).spreads

theorem NoFieldCycle.below {fragments : Fragments} {c : Option String}
    {selections inner : List Syntax.Selection} (hcycle : NoFieldCycle fragments selections)
    {o : Occurrence} (h : Occurs fragments c selections o) (ho : o.set? = some inner) :
    NoFieldCycle fragments inner :=
  fun name f via hname => hcycle name f via (h.meets_of_meets ho hname)

/-- Below a field there are fewer levels. -/
theorem levels_lt {fragments : Fragments} {c : Option String}
    {selections inner : List Syntax.Selection} (hcycle : NoFieldCycle fragments selections)
    {o : Occurrence} (h : Occurs fragments c selections o) (ho : o.set? = some inner) :
    levels fragments inner < levels fragments selections := by
  have hsub : used fragments inner ⊆ used fragments selections := by
    intro n hn
    rw [mem_used] at hn ⊢
    exact ⟨hn.1, h.meets_of_meets ho hn.2⟩
  rcases h.stands with hstep | ⟨name, f, hmeets, hf, hstep⟩
  · have hlt := (hstep.set_below rfl ho).1
    have hsum := Finset.sum_le_sum_of_subset (f := fragmentDepth fragments) hsub
    unfold levels
    omega
  · obtain ⟨hlt, hbelow⟩ := hstep.set_below rfl ho
    have hname : name ∈ used fragments selections :=
      mem_used.mpr ⟨Fragments.mem_names_of_find? hf, hmeets⟩
    have hout : name ∉ used fragments inner := by
      intro hn
      cases (mem_used.mp hn).2 with
      | here hs => exact (hcycle name f name hmeets hf (hbelow name hs)).1 rfl
      | @inside _ _ via g hs hg hm => exact (hcycle name f via hmeets hf (hbelow via hs)).2 g hg hm
    have hsub' : used fragments inner ⊆ (used fragments selections).erase name := fun n hn =>
      Finset.mem_erase.mpr ⟨fun he => hout (he ▸ hn), hsub hn⟩
    have hsum := Finset.sum_le_sum_of_subset (f := fragmentDepth fragments) hsub'
    have herase := Finset.add_sum_erase _ (fragmentDepth fragments) hname
    have hdepth : fragmentDepth fragments name = depthAll f.selections := by
      simp [fragmentDepth, hf]
    unfold levels
    omega

theorem sum_fragmentDepth_le (fragments : Fragments) :
    ∑ name ∈ fragments.names.toFinset, fragmentDepth fragments name ≤
      (fragments.map fun f => depthAll f.selections).foldr (· + ·) 0 := by
  have hnodup : (fragments.names.filterMap fragments.find?).Nodup := by
    refine List.Nodup.filterMap (fun a a' f ha ha' => ?_) (nodup_eraseDups _)
    exact (Fragments.find?_name ha).symm.trans (Fragments.find?_name ha')
  have hsubset : fragments.names.filterMap fragments.find? ⊆ fragments := by
    intro f hf
    obtain ⟨name, _, hname⟩ := List.mem_filterMap.mp hf
    exact Fragments.find?_mem hname
  have hsum : ∀ names : List String, (names.map (fragmentDepth fragments)).sum =
      ((names.filterMap fragments.find?).map fun f => depthAll f.selections).sum := by
    intro names
    induction names with
    | nil => rfl
    | cons name names ih =>
      cases hf : fragments.find? name <;> simp [fragmentDepth, hf, ih]
  obtain ⟨l, hperm, hsublist⟩ := List.subperm_of_subset hnodup hsubset
  have hnames : fragments.names.Nodup := nodup_eraseDups _
  rw [List.sum_toFinset _ hnames, hsum, ← (hperm.map _).sum_eq]
  exact (hsublist.map _).sum_le_sum (by simp)

theorem levels_lt_depthBound (fragments : Fragments) {sets : List (List Syntax.Selection)}
    {set : List Syntax.Selection} (h : set ∈ sets) :
    levels fragments set < depthBound fragments sets := by
  have hset : depthAll set ≤ (sets.map depthAll).foldr (· + ·) 0 := by
    rw [← List.sum_eq_foldr]
    exact List.single_le_sum (by simp) _ (List.mem_map_of_mem h)
  have hsub : used fragments set ⊆ fragments.names.toFinset := by
    intro name hname
    simpa using (mem_used.mp hname).1
  have hsum := Finset.sum_le_sum_of_subset (f := fragmentDepth fragments) hsub
  have hall := sum_fragmentDepth_le fragments
  unfold levels depthBound
  omega

theorem mem_sets_levelOccurrences {fragments : Fragments} {sets : List (List Syntax.Selection)}
    {key : String} {set : List Syntax.Selection}
    (h : set ∈ (groupOf (levelOccurrences fragments sets) key).sets) :
    ∃ outer ∈ sets, ∃ o, Occurs fragments none outer o ∧ o.key = key ∧ o.set? = some set := by
  obtain ⟨o, ho, hkey, hset⟩ := mem_sets_groupOf.mp h
  obtain ⟨outer, houter, ho⟩ := List.mem_flatMap.mp ho
  exact ⟨outer, houter, o, mem_flatten_iff.mp ho, hkey, hset⟩

theorem exists_mergeWithin {fragments : Fragments} {fuel : ℕ}
    {sets : List (List Syntax.Selection)} (hcycle : ∀ set ∈ sets, NoFieldCycle fragments set)
    (h : ∀ set ∈ sets, levels fragments set < fuel) (hfuel : 0 < fuel) :
    ∃ l, mergeWithin fragments fuel sets = some l := by
  induction fuel generalizing sets with
  | zero => simp at hfuel
  | succ fuel ih =>
    have hmember : ∀ key, ∃ m,
        member fragments fuel (groupOf (levelOccurrences fragments sets) key) = some m := by
      intro key
      unfold member
      split
      · exact ⟨_, rfl⟩
      · by_cases hsets : (groupOf (levelOccurrences fragments sets) key).sets = []
        · simp [hsets]
        · have hbelow : ∀ set ∈ (groupOf (levelOccurrences fragments sets) key).sets,
              NoFieldCycle fragments set ∧ levels fragments set < fuel := by
            intro set hset
            obtain ⟨outer, houter, o, hoccurs, _, ho⟩ := mem_sets_levelOccurrences hset
            have := levels_lt (hcycle outer houter) hoccurs ho
            have := h outer houter
            exact ⟨(hcycle outer houter).below hoccurs ho, by omega⟩
          obtain ⟨set, hset⟩ := List.exists_mem_of_ne_nil _ hsets
          obtain ⟨inner, hinner⟩ := ih (fun set hset => (hbelow set hset).1)
            (fun set hset => (hbelow set hset).2) (by have := (hbelow set hset).2; omega)
          simp [hsets, hinner]
    exact exists_mergeWithin_succ hmember

/-- Merging ends when no fragment leads back to itself through a field. -/
theorem exists_merge? {fragments : Fragments} {sets : List (List Syntax.Selection)}
    (hcycle : ∀ set ∈ sets, NoFieldCycle fragments set) : ∃ l, merge? fragments sets = some l :=
  exists_mergeWithin hcycle (fun _ h => levels_lt_depthBound fragments h) (by simp [depthBound])

end OperationClasses.Selection
