import OperationClasses.Proofs.Selection.TypedLevels

/-!
# Pruned selections

Selections and fragments without the spreads of undefined fragments. What stands at a level of
pruned selections are the fields that stand there otherwise, with pruned selection sets. So a
response key that is first met as a field stands for the same field.
-/
namespace OperationClasses.Selection

open Syntax

mutual

/-- A selection without the undefined spreads in it; none for such a spread itself. -/
def pruned? (fragments : Fragments) : Syntax.Selection → Option Syntax.Selection
  | .field alias? name args ds inner? offset =>
    match inner? with
    | some inner => some (.field alias? name args ds (some (prunedAll fragments inner)) offset)
    | none => some (.field alias? name args ds none offset)
  | .inline condition? ds inner => some (.inline condition? ds (prunedAll fragments inner))
  | .spread name ds offset =>
    if (fragments.find? name).isSome then some (.spread name ds offset) else none

def prunedAll (fragments : Fragments) : List Syntax.Selection → List Syntax.Selection
  | [] => []
  | s :: rest => (pruned? fragments s).toList ++ prunedAll fragments rest

end

/-- The fragments without undefined spreads. -/
def prunedFragments (fragments : Fragments) : Fragments :=
  fragments.map fun f => { f with selections := prunedAll fragments f.selections }

/-- A field above a pruned selection set. -/
def prunedField (fragments : Fragments) (node : FieldNode) : FieldNode :=
  { node with selections? := node.selections?.map (prunedAll fragments) }

@[simp] theorem key_prunedField (fragments : Fragments) (node : FieldNode) :
    (prunedField fragments node).key = node.key := rfl

@[simp] theorem selections?_prunedField (fragments : Fragments) (node : FieldNode) :
    (prunedField fragments node).selections? = node.selections?.map (prunedAll fragments) := rfl

/-- An occurrence above a pruned selection set; none for an undefined spread. -/
def Occurrence.pruned? (fragments : Fragments) : Occurrence → Option Occurrence
  | .field node condition? => some (.field (prunedField fragments node) condition?)
  | .undefinedSpread _ => none

/-- An origin above a pruned selection set. -/
def Origin.pruned (fragments : Fragments) : Origin → Origin
  | .field node condition? => .field (prunedField fragments node) condition?
  | .undefinedSpread node => .undefinedSpread node

/-- A group above pruned selection sets. -/
def Group.pruned (fragments : Fragments) (g : Group) : Group :=
  ⟨g.key, g.origin.pruned fragments, g.sets.map (prunedAll fragments)⟩

variable {fragments : Fragments} {os : List Occurrence} {sets : List (List Syntax.Selection)}

theorem find?_prunedFragments (fragments : Fragments) (name : String) :
    (prunedFragments fragments).find? name =
      (fragments.find? name).map fun f =>
        { f with selections := prunedAll fragments f.selections } := by
  simp only [Fragments.find?, prunedFragments, ← List.map_reverse, List.find?_map]
  rfl

theorem names_prunedFragments (fragments : Fragments) :
    (prunedFragments fragments).names = fragments.names := by
  simp [Fragments.names, prunedFragments, Function.comp_def]

theorem depthAll_append (ss ss' : List Syntax.Selection) :
    depthAll (ss ++ ss') = max (depthAll ss) (depthAll ss') := by
  induction ss with
  | nil => simp [depthAll]
  | cons s rest ih => rw [List.cons_append, depthAll, depthAll, ih, max_assoc]

mutual

theorem depthAll_pruned? (fragments : Fragments) (s : Syntax.Selection) :
    depthAll (pruned? fragments s).toList = depth s := by
  cases s with
  | field alias? name args ds inner? offset =>
    cases inner? with
    | none => simp [pruned?, depthAll, depth]
    | some inner => simp [pruned?, depthAll, depth, depthAll_prunedAll fragments inner]
  | inline condition? ds inner =>
    simp [pruned?, depthAll, depth, depthAll_prunedAll fragments inner]
  | spread name ds offset =>
    rw [pruned?]
    split <;> simp [depthAll, depth]

theorem depthAll_prunedAll (fragments : Fragments) (ss : List Syntax.Selection) :
    depthAll (prunedAll fragments ss) = depthAll ss := by
  cases ss with
  | nil => simp [prunedAll]
  | cons s rest =>
    rw [prunedAll, depthAll_append, depthAll_pruned? fragments s, depthAll_prunedAll fragments rest,
      depthAll]

end

theorem depthBound_pruned (fragments : Fragments) (sets : List (List Syntax.Selection)) :
    depthBound (prunedFragments fragments) (sets.map (prunedAll fragments)) =
      depthBound fragments sets := by
  simp [depthBound, prunedFragments, Function.comp_def, depthAll_prunedAll]

theorem flattenAll_append (expand : SpreadNode → List Occurrence) (condition? : Option String)
    (ss ss' : List Syntax.Selection) :
    flattenAll expand condition? (ss ++ ss') =
      flattenAll expand condition? ss ++ flattenAll expand condition? ss' := by
  induction ss with
  | nil => simp [flattenAll]
  | cons s rest ih => simp [flattenAll, ih]

section

variable {expand expand' : SpreadNode → List Occurrence}

mutual

theorem flattenAll_pruned?
    (hdefined : ∀ s, (fragments.find? s.name).isSome →
      expand' s = (expand s).filterMap (Occurrence.pruned? fragments))
    (hundefined : ∀ s, fragments.find? s.name = none →
      (expand s).filterMap (Occurrence.pruned? fragments) = [])
    (condition? : Option String) (s : Syntax.Selection) :
    flattenAll expand' condition? (pruned? fragments s).toList =
      (flattenOne expand condition? s).filterMap (Occurrence.pruned? fragments) := by
  cases s with
  | field alias? name args ds inner? offset =>
    cases inner? <;> simp [pruned?, flattenAll, flattenOne, Occurrence.pruned?, prunedField]
  | inline inner? ds selections =>
    simp [pruned?, flattenAll, flattenOne,
      flattenAll_prunedAll hdefined hundefined (inner?.or condition?) selections]
  | spread name ds offset =>
    cases hf : fragments.find? name with
    | none => simp [pruned?, flattenAll, flattenOne, hf, hundefined ⟨name, ds, offset⟩ hf]
    | some f =>
      simp [pruned?, flattenAll, flattenOne, hf, hdefined ⟨name, ds, offset⟩ (by simp [hf])]

theorem flattenAll_prunedAll
    (hdefined : ∀ s, (fragments.find? s.name).isSome →
      expand' s = (expand s).filterMap (Occurrence.pruned? fragments))
    (hundefined : ∀ s, fragments.find? s.name = none →
      (expand s).filterMap (Occurrence.pruned? fragments) = [])
    (condition? : Option String) (selections : List Syntax.Selection) :
    flattenAll expand' condition? (prunedAll fragments selections) =
      (flattenAll expand condition? selections).filterMap (Occurrence.pruned? fragments) := by
  cases selections with
  | nil => simp [prunedAll, flattenAll]
  | cons s rest =>
    rw [prunedAll, flattenAll_append, flattenAll, List.filterMap_append,
      flattenAll_pruned? hdefined hundefined condition? s,
      flattenAll_prunedAll hdefined hundefined condition? rest]

end

end

theorem flattenWithin_pruned (fragments : Fragments) (fuel : ℕ) (path : List String)
    (condition? : Option String) (selections : List Syntax.Selection) :
    flattenWithin (prunedFragments fragments) fuel path condition?
        (prunedAll fragments selections) =
      (flattenWithin fragments fuel path condition? selections).filterMap
        (Occurrence.pruned? fragments) := by
  induction fuel generalizing path condition? selections with
  | zero => rfl
  | succ fuel ih =>
    refine flattenAll_prunedAll (fun s hs => ?_) (fun s hs => ?_) condition? selections
    · obtain ⟨f, hf⟩ := Option.isSome_iff_exists.mp hs
      by_cases hpath : s.name ∈ path
      · simp [hpath]
      · simp [hpath, hf, find?_prunedFragments, ih]
    · by_cases hpath : s.name ∈ path <;> simp [hpath, hs, Occurrence.pruned?]

/-- At a level of pruned selections stand its fields, above pruned selection sets. -/
theorem levelOccurrences_pruned (fragments : Fragments) (sets : List (List Syntax.Selection)) :
    levelOccurrences (prunedFragments fragments) (sets.map (prunedAll fragments)) =
      (levelOccurrences fragments sets).filterMap (Occurrence.pruned? fragments) := by
  rw [levelOccurrences, levelOccurrences, List.flatMap_map, List.filterMap_flatMap]
  refine List.flatMap_congr fun set _ => ?_
  rw [flatten, names_prunedFragments]
  exact flattenWithin_pruned fragments _ [] none set

theorem Occurrence.key_of_pruned? {o o' : Occurrence} (h : o.pruned? fragments = some o') :
    o'.key = o.key := by
  cases o <;> cases h
  rfl

theorem sets_groupOf_pruned (fragments : Fragments) (os : List Occurrence) (key : String) :
    (groupOf (os.filterMap (Occurrence.pruned? fragments)) key).sets =
      (groupOf os key).sets.map (prunedAll fragments) := by
  rw [sets_groupOf, sets_groupOf, List.filterMap_filterMap, List.map_filterMap]
  refine List.filterMap_congr fun o _ => ?_
  cases o with
  | undefinedSpread node => simp [Occurrence.pruned?, Occurrence.set?]
  | field node condition? =>
    by_cases hkey : node.key = key <;>
      simp [Occurrence.pruned?, Occurrence.key, Occurrence.set?, hkey]

/-- A key that is first met as a field stands for the same field above pruned selection sets. -/
theorem groupOf_pruned (fragments : Fragments) {key : String} {node : FieldNode}
    {condition? : Option String} (h : (groupOf os key).origin = .field node condition?) :
    groupOf (os.filterMap (Occurrence.pruned? fragments)) key =
      (groupOf os key).pruned fragments := by
  have horigin : (groupOf (os.filterMap (Occurrence.pruned? fragments)) key).origin =
      (groupOf os key).origin.pruned fragments := by
    cases hfind : os.find? (·.key = key) with
    | none => simp [groupOf, hfind] at h
    | some o =>
      have ho : o.origin = .field node condition? := by simpa [groupOf, hfind] using h
      obtain ⟨hkey, before, after, rfl, hbefore⟩ := List.find?_eq_some_iff_append.mp hfind
      have hnone :
          (before.filterMap (Occurrence.pruned? fragments)).find? (·.key = key) = none := by
        simp only [List.find?_eq_none, List.mem_filterMap]
        rintro o' ⟨earlier, hearlier, hpruned⟩
        rw [Occurrence.key_of_pruned? hpruned]
        simpa using hbefore earlier hearlier
      cases o with
      | undefinedSpread => cases ho
      | field first c =>
        have hfirst :
            decide ((Occurrence.field (prunedField fragments first) c).key = key) = true := hkey
        simp only [groupOf, hfind, List.filterMap_append, List.find?_append, hnone, Option.none_or,
          List.filterMap_cons, Occurrence.pruned?, List.find?_cons, hfirst]
        rfl
  exact congrArg₂ (Group.mk key) horigin (sets_groupOf_pruned fragments os key)

/-- The response keys of pruned selections, if a field and an undefined spread never share one. -/
theorem keys_pruned {isField : String → Bool}
    (h : ∀ o ∈ os, (o.pruned? fragments).isSome = isField o.key) :
    keys (os.filterMap (Occurrence.pruned? fragments)) = (keys os).filter isField := by
  induction os using List.reverseRecOn with
  | nil => rfl
  | append_singleton os o ih =>
    simp only [List.mem_append, List.mem_singleton] at h
    have ih := ih fun o' ho' => h o' (.inl ho')
    have hfield := h o (.inr rfl)
    rw [List.filterMap_append, keys_append]
    cases hpruned : o.pruned? fragments with
    | none =>
      rw [hpruned, Option.isSome_none] at hfield
      split <;> simp [hpruned, ih, ← hfield]
    | some o' =>
      rw [hpruned, Option.isSome_some] at hfield
      have hkey := Occurrence.key_of_pruned? hpruned
      simp only [List.filterMap_cons, hpruned, List.filterMap_nil, keys_append, hkey, ih,
        List.mem_filter, ← hfield, and_true]
      split <;> simp [← hfield]

end OperationClasses.Selection
