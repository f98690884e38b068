import OperationClasses.Proofs.Payload.Uses
import OperationClasses.Proofs.Selection.Termination
import OperationClasses.Proofs.Syntax.Unlocated

/-!
# Fragments that are carried along

Merging selections and collecting their fragments looks at no fragment that the selections do
not use, and not at the places where arguments and directives stand. So any table that carries
the used fragments, without their places, gives the same tree.
-/
namespace OperationClasses.Selection

open Syntax Expansion

variable {carried fragments : Fragments} {selections : List Syntax.Selection} {name : String}

/-- A table has what the selections meet, without its places. -/
def Carries (carried fragments : Fragments) (selections : List Syntax.Selection) : Prop :=
  ∀ name, Meets fragments selections name →
    carried.find? name = (fragments.find? name).map Fragment.unlocated

theorem Carries.inside (h : Carries carried fragments selections)
    (hname : Meets fragments selections name) {f : Fragment}
    (hf : fragments.find? name = some f) : Carries carried fragments f.selections :=
  fun n hn => h n (hname.trans hf hn)

theorem Carries.below (h : Carries carried fragments selections) {c : Option String}
    {o : Occurrence} (ho : Occurs fragments c selections o) {inner : List Syntax.Selection}
    (hinner : o.set? = some inner) : Carries carried fragments inner :=
  fun n hn => h n (ho.meets_of_meets hinner hn)

theorem find?_map_unlocated (fragments : Fragments) (name : String) :
    Fragments.find? (fragments.map Fragment.unlocated) name =
      (fragments.find? name).map Fragment.unlocated := by
  simp only [Fragments.find?, ← List.map_reverse, List.find?_map]
  rfl

theorem carries_unlocated (fragments : Fragments) (selections : List Syntax.Selection) :
    Carries (fragments.map Fragment.unlocated) fragments selections :=
  fun name _ => find?_map_unlocated fragments name

mutual

theorem spreadNames_unlocated (s : Syntax.Selection) : spreadNames s.unlocated = spreadNames s := by
  cases s with
  | field alias? fieldName args ds inner? =>
    cases inner? with
    | none => rfl
    | some inner => exact spreadNamesAll_unlocatedAll inner
  | inline condition? ds inner => exact spreadNamesAll_unlocatedAll inner
  | spread spreadName ds => rfl

theorem spreadNamesAll_unlocatedAll (selections : List Syntax.Selection) :
    spreadNamesAll (Selection.unlocatedAll selections) = spreadNamesAll selections := by
  cases selections with
  | nil => rfl
  | cons s rest =>
    rw [Selection.unlocatedAll, spreadNamesAll, spreadNamesAll, spreadNames_unlocated s,
      spreadNamesAll_unlocatedAll rest]

end

mutual

theorem spreadNamesBelow_unlocated (s : Syntax.Selection) :
    spreadNamesBelow s.unlocated = spreadNamesBelow s := by
  cases s with
  | field alias? fieldName args ds inner? =>
    cases inner? with
    | none => rfl
    | some inner => exact spreadNamesAll_unlocatedAll inner
  | inline condition? ds inner => exact spreadNamesBelowAll_unlocatedAll inner
  | spread spreadName ds => rfl

theorem spreadNamesBelowAll_unlocatedAll (selections : List Syntax.Selection) :
    spreadNamesBelowAll (Selection.unlocatedAll selections) = spreadNamesBelowAll selections := by
  cases selections with
  | nil => rfl
  | cons s rest =>
    rw [Selection.unlocatedAll, spreadNamesBelowAll, spreadNamesBelowAll,
      spreadNamesBelow_unlocated s, spreadNamesBelowAll_unlocatedAll rest]

end

theorem spreads_unlocatedAll :
    Spreads (Selection.unlocatedAll selections) name ↔ Spreads selections name := by
  rw [spreads_iff_mem, spreadNamesAll_unlocatedAll, spreads_iff_mem]

theorem spreadsBelow_unlocatedAll :
    SpreadsBelow (Selection.unlocatedAll selections) name ↔ SpreadsBelow selections name := by
  rw [spreadsBelow_iff_mem, spreadNamesBelowAll_unlocatedAll, spreadsBelow_iff_mem]

theorem Meets.to_carried (h : Meets fragments selections name)
    (hc : Carries carried fragments selections) :
    Meets carried (Selection.unlocatedAll selections) name := by
  induction h with
  | here hs => exact .here (spreads_unlocatedAll.mpr hs)
  | inside hs hf _ ih =>
    have hvia := hc _ (.here hs)
    rw [hf] at hvia
    exact .inside (spreads_unlocatedAll.mpr hs) hvia (ih (hc.inside (.here hs) hf))

theorem Meets.of_carried {selections' : List Syntax.Selection}
    (h : Meets carried selections' name) (hc : Carries carried fragments selections)
    (hsame : selections' = Selection.unlocatedAll selections) :
    Meets fragments selections name := by
  induction h generalizing selections with
  | here hs => exact .here (spreads_unlocatedAll.mp (hsame ▸ hs))
  | inside hs hf _ ih =>
    have hs' : Spreads selections _ := spreads_unlocatedAll.mp (hsame ▸ hs)
    rw [hc _ (.here hs'), Option.map_eq_some_iff] at hf
    obtain ⟨f, hf, rfl⟩ := hf
    exact .inside hs' hf (ih (hc.inside (.here hs') hf) rfl)

theorem meets_carried (hc : Carries carried fragments selections) :
    Meets carried (Selection.unlocatedAll selections) name ↔ Meets fragments selections name :=
  ⟨fun h => h.of_carried hc rfl, fun h => h.to_carried hc⟩

/-- A fragment leads back to itself through a field in both tables or in none. -/
theorem noFieldCycle_carried (hc : Carries carried fragments selections) :
    NoFieldCycle carried (Selection.unlocatedAll selections) ↔
      NoFieldCycle fragments selections := by
  constructor
  · intro h name f via hname hf hvia
    have hf' := hc name hname
    rw [hf, Option.map_some] at hf'
    obtain ⟨hne, hback⟩ :=
      h name _ via (hname.to_carried hc) hf' (spreadsBelow_unlocatedAll.mpr hvia)
    refine ⟨hne, fun g hg hmeets => ?_⟩
    have hmet : Meets fragments selections via := hname.trans hf (.here hvia.spreads)
    have hg' := hc via hmet
    rw [hg, Option.map_some] at hg'
    exact hback _ hg' (hmeets.to_carried (hc.inside hmet hg))
  · intro h name f' via hname hf' hvia
    have hname' := (meets_carried hc).mp hname
    rw [hc name hname', Option.map_eq_some_iff] at hf'
    obtain ⟨f, hf, rfl⟩ := hf'
    have hvia' : SpreadsBelow f.selections via := spreadsBelow_unlocatedAll.mp hvia
    obtain ⟨hne, hback⟩ := h name f via hname' hf hvia'
    refine ⟨hne, fun g' hg' hmeets => ?_⟩
    have hmet : Meets fragments selections via := hname'.trans hf (.here hvia'.spreads)
    rw [hc via hmet, Option.map_eq_some_iff] at hg'
    obtain ⟨g, hg, rfl⟩ := hg'
    exact hback g hg (hmeets.of_carried (hc.inside hmet hg) rfl)

/-- Forgets where the parts of an occurrence stand. -/
def Occurrence.unlocated : Occurrence → Occurrence
  | .field node condition? => .field node.unlocated condition?
  | .undefinedSpread node => .undefinedSpread node.unlocated

/-- Forgets where the parts of an origin stand. -/
def Origin.unlocated : Origin → Origin
  | .field node condition? => .field node.unlocated condition?
  | .undefinedSpread node => .undefinedSpread node.unlocated

@[simp] theorem Occurrence.key_unlocated (o : Occurrence) : o.unlocated.key = o.key := by
  cases o <;> rfl

@[simp] theorem Occurrence.origin_unlocated (o : Occurrence) :
    o.unlocated.origin = o.origin.unlocated := by
  cases o <;> rfl

@[simp] theorem Occurrence.set?_unlocated (o : Occurrence) :
    o.unlocated.set? = o.set?.map Selection.unlocatedAll := by
  cases o <;> rfl

mutual

theorem steps_carried (s : Syntax.Selection) (c : Option String)
    (h : ∀ n ∈ spreadNames s, carried.find? n = (fragments.find? n).map Fragment.unlocated) :
    steps carried c s.unlocated = (steps fragments c s).map (Step.map Occurrence.unlocated) := by
  cases s with
  | field alias? fieldName args ds inner? offset =>
    simp [Selection.unlocated_field, steps, Step.map, Occurrence.unlocated, FieldNode.unlocated]
  | inline condition? ds inner => exact stepsAll_carried inner _ h
  | spread spreadName ds offset =>
    have hfind := h spreadName (by simp [spreadNames])
    cases hf : fragments.find? spreadName with
    | none =>
      rw [hf, Option.map_none] at hfind
      simp [Selection.unlocated, steps, hf, hfind, Step.map, Occurrence.unlocated,
        SpreadNode.unlocated]
    | some f =>
      rw [hf, Option.map_some] at hfind
      simp [Selection.unlocated, steps, hf, hfind, Step.map]

theorem stepsAll_carried (selections : List Syntax.Selection) (c : Option String)
    (h : ∀ n ∈ spreadNamesAll selections,
      carried.find? n = (fragments.find? n).map Fragment.unlocated) :
    stepsAll carried c (Selection.unlocatedAll selections) =
      (stepsAll fragments c selections).map (Step.map Occurrence.unlocated) := by
  cases selections with
  | nil => rfl
  | cons s rest =>
    rw [Selection.unlocatedAll, stepsAll, stepsAll, List.map_append, steps_carried s c,
      stepsAll_carried rest c]
    · exact fun n hn => h n (List.mem_append_right _ hn)
    · exact fun n hn => h n (List.mem_append_left _ hn)

end

/-- What stands at the level of selections is the same in both tables. -/
theorem flatten_carried (hc : Carries carried fragments selections) :
    flatten carried (Selection.unlocatedAll selections) =
      (flatten fragments selections).map Occurrence.unlocated := by
  have hsteps : ∀ inner c, Carries carried fragments inner →
      stepsAll carried c (Selection.unlocatedAll inner) =
        (stepsAll fragments c inner).map (Step.map Occurrence.unlocated) :=
    fun inner c h => stepsAll_carried inner c fun n hn => h n (.here (spreads_of_mem hn))
  rw [flatten_eq_along, flatten_eq_along, hsteps selections none hc]
  refine along_congr bodies_mem_names bodies_mem_names Occurrence.unlocated
    (Meets fragments selections) ?_ ?_ (.initial _) (.initial _) ?_
  · intro n hn
    cases hf : fragments.find? n with
    | none => simp [bodies, hc n hn, hf]
    | some f =>
      have hbody := hsteps f.selections (some f.condition) (hc.inside hn hf)
      simp [bodies, hc n hn, hf, ← hbody, Fragment.unlocated]
  · intro n body m hn hbody hm
    obtain ⟨f, hf, rfl⟩ := Option.map_eq_some_iff.mp hbody
    exact hn.trans hf (.here ((mem_stepsAll_iff.mp hm).enter rfl).1)
  · intro n hn
    exact .here ((mem_stepsAll_iff.mp hn).enter rfl).1

/-- The used fragments are the same in both tables. -/
theorem usedFragments_carried (hc : Carries carried fragments selections) :
    Payload.usedFragments carried (Selection.unlocatedAll selections) =
      Payload.usedFragments fragments selections := by
  have hid : ∀ text : List (Step String), text.map (Step.map id) = text := by
    intro text
    refine List.map_id'' (fun step => ?_) text
    cases step <;> rfl
  have hreading : Payload.readingOrder carried (Selection.unlocatedAll selections) =
      (Payload.readingOrder fragments selections).map id := by
    rw [Payload.readingOrder, Payload.readingOrder, spreadNamesAll_unlocatedAll,
      ← hid ((spreadNamesAll selections).map .enter)]
    nth_rewrite 2 [hid]
    refine along_congr Payload.openings_mem_names Payload.openings_mem_names id
      (Meets fragments selections) ?_ ?_ (.initial _) (.initial _) ?_
    · intro n hn
      cases hf : fragments.find? n with
      | none => simp [Payload.openings, hc n hn, hf]
      | some f =>
        simp [Payload.openings, hc n hn, hf, hid, Fragment.unlocated,
          spreadNamesAll_unlocatedAll]
    · intro n body m hn hbody hm
      obtain ⟨f, hf, rfl⟩ := Option.map_eq_some_iff.mp hbody
      exact hn.trans hf (.here (spreads_of_mem (by simpa using hm)))
    · intro n hn
      exact .here (spreads_of_mem (by simpa using hn))
  rw [Payload.usedFragments_eq, Payload.usedFragments_eq, hreading, List.map_id]

theorem keys_map_unlocated (os : List Occurrence) :
    keys (os.map Occurrence.unlocated) = keys os := by
  simp [keys, Function.comp_def]

theorem groupOf_map_unlocated (os : List Occurrence) (key : String) :
    groupOf (os.map Occurrence.unlocated) key = ⟨key, (groupOf os key).origin.unlocated,
      (groupOf os key).sets.map Selection.unlocatedAll⟩ := by
  have horigin : (groupOf (os.map Occurrence.unlocated) key).origin =
      (groupOf os key).origin.unlocated := by
    simp only [groupOf, List.find?_map, Function.comp_def, Occurrence.key_unlocated]
    cases os.find? (·.key = key) with
    | none => rfl
    | some o => exact o.origin_unlocated
  rw [← horigin]
  simp [groupOf, List.filter_map, List.filterMap_map, List.map_filterMap, Function.comp_def]

mutual

/-- Forgets where the parts of a field of the answer stand. -/
def Merged.unlocated : Merged → Merged
  | .leaf node condition? => .leaf node.unlocated condition?
  | .object node condition? spreads members =>
    .object node.unlocated condition? spreads (Merged.unlocatedAll members)
  | .undefinedSpread node => .undefinedSpread node.unlocated

def Merged.unlocatedAll : List Merged → List Merged
  | [] => []
  | m :: rest => m.unlocated :: Merged.unlocatedAll rest

end

theorem Merged.unlocatedAll_eq_map (ms : List Merged) :
    Merged.unlocatedAll ms = ms.map Merged.unlocated := by
  induction ms with
  | nil => rfl
  | cons m rest ih => rw [Merged.unlocatedAll, ih, List.map_cons]

/-- Forgets where the parts of a level stand. -/
def Level.unlocated (l : Level) : Level := ⟨l.spreads, Merged.unlocatedAll l.members⟩

theorem member_carried {fuel : ℕ} {g : Group}
    (h : mergeWithin carried fuel (g.sets.map Selection.unlocatedAll) =
      (mergeWithin fragments fuel g.sets).map Level.unlocated) :
    member carried fuel ⟨g.key, g.origin.unlocated, g.sets.map Selection.unlocatedAll⟩ =
      (member fragments fuel g).map Merged.unlocated := by
  obtain ⟨key, origin, sets⟩ := g
  cases origin with
  | undefinedSpread node => rfl
  | field node condition? =>
    simp only [member, Origin.unlocated, List.isEmpty_map, h, Option.map_map]
    split
    · rfl
    · cases mergeWithin fragments fuel sets <;> rfl

/-- Merging gives the same tree in any table that carries the used fragments. -/
theorem mergeWithin_carried {sets : List (List Syntax.Selection)}
    (hc : ∀ set ∈ sets, Carries carried fragments set) (fuel : ℕ) :
    mergeWithin carried fuel (sets.map Selection.unlocatedAll) =
      (mergeWithin fragments fuel sets).map Level.unlocated := by
  induction fuel generalizing sets with
  | zero => rfl
  | succ fuel ih =>
    have hlevel : levelOccurrences carried (sets.map Selection.unlocatedAll) =
        (levelOccurrences fragments sets).map Occurrence.unlocated := by
      rw [levelOccurrences, levelOccurrences, List.flatMap_map, List.map_flatMap]
      exact List.flatMap_congr fun set hset => flatten_carried (hc set hset)
    have hspreads : undefinedSpreads ((levelOccurrences fragments sets).map Occurrence.unlocated) =
        undefinedSpreads (levelOccurrences fragments sets) := by
      rw [undefinedSpreads, undefinedSpreads, List.filterMap_map]
      refine List.filterMap_congr fun o _ => ?_
      cases o <;> rfl
    have hmember : ∀ key, member carried fuel
        (groupOf ((levelOccurrences fragments sets).map Occurrence.unlocated) key) =
          (member fragments fuel (groupOf (levelOccurrences fragments sets) key)).map
            Merged.unlocated := by
      intro key
      have hsets : ∀ set ∈ (groupOf (levelOccurrences fragments sets) key).sets,
          Carries carried fragments set := by
        intro set hset
        obtain ⟨outer, houter, o, ho, -, hinner⟩ := mem_sets_levelOccurrences hset
        exact (hc outer houter).below ho hinner
      rw [groupOf_map_unlocated]
      exact member_carried (ih hsets)
    rw [mergeWithin_succ, mergeWithin_succ, hlevel, hspreads, keys_map_unlocated]
    simp only [hmember, Option.map_map]
    rw [mapM_map_option, Option.map_map]
    congr 1
    funext members
    exact congrArg (Level.mk _) (Merged.unlocatedAll_eq_map members).symm

/-- Two tables that carry the same for the same selections merge them to the same tree. -/
theorem merge?_of_carried {fragments' : Fragments} {selections' : List Syntax.Selection}
    (hc : Carries carried fragments selections) (hc' : Carries carried fragments' selections')
    (hsame : Selection.unlocatedAll selections' = Selection.unlocatedAll selections)
    (hcycle : NoFieldCycle fragments selections) :
    ∃ l l', merge? fragments [selections] = some l ∧ merge? fragments' [selections'] = some l' ∧
      l'.unlocated = l.unlocated := by
  have hcycle' : NoFieldCycle fragments' selections' := by
    rw [← noFieldCycle_carried hc', hsame, noFieldCycle_carried hc]
    exact hcycle
  have hsets : ∀ set ∈ [selections], NoFieldCycle fragments set := by simpa using hcycle
  have hsets' : ∀ set ∈ [selections'], NoFieldCycle fragments' set := by simpa using hcycle'
  obtain ⟨l, hl⟩ := exists_merge? hsets
  obtain ⟨l', hl'⟩ := exists_merge? hsets'
  refine ⟨l, l', hl, hl', ?_⟩
  have hmax := mergeWithin_mono hl (Nat.le_max_left _ (depthBound fragments' [selections']))
  have hmax' := mergeWithin_mono hl' (Nat.le_max_right (depthBound fragments [selections]) _)
  have hcopy := @mergeWithin_carried carried fragments [selections] (by simpa using hc)
    (max (depthBound fragments [selections]) (depthBound fragments' [selections']))
  have hcopy' := @mergeWithin_carried carried fragments' [selections'] (by simpa using hc')
    (max (depthBound fragments [selections]) (depthBound fragments' [selections']))
  rw [hmax, List.map_singleton] at hcopy
  rw [hmax', List.map_singleton, hsame, hcopy] at hcopy'
  exact (Option.some.inj hcopy').symm

end OperationClasses.Selection
