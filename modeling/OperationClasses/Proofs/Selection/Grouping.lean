import Mathlib.Data.List.Induction
import OperationClasses.Proofs.Selection.Occurrences

/-!
# Groups of occurrences

Grouping reads off, for every response key in the order of the first occurrences, what the first
occurrence of the key is and the selection sets of all its occurrences. So thinning the
occurrences changes no key and no origin, and thins the selection sets.
-/
namespace OperationClasses.Selection

open Syntax

namespace Occurrence

/-- The response key; an undefined spread stands under its own name. -/
def key : Occurrence → String
  | field node _ => node.key
  | undefinedSpread node => node.name

def origin : Occurrence → Origin
  | field node condition? => .field node condition?
  | undefinedSpread node => .undefinedSpread node

def set? : Occurrence → Option (List Syntax.Selection)
  | field node _ => node.selections?
  | undefinedSpread _ => none

end Occurrence

/-- The group that a single occurrence makes. -/
def soleGroup (o : Occurrence) : Group := ⟨o.key, o.origin, o.set?.toList⟩

/-- What occurrences say about a response key. -/
def groupOf (os : List Occurrence) (key : String) : Group where
  key := key
  origin := ((os.find? (·.key = key)).map (·.origin)).getD (.undefinedSpread ⟨key, [], 0⟩)
  sets := (os.filter (·.key = key)).filterMap (·.set?)

/-- The response keys in the order of their first occurrences. -/
def keys (os : List Occurrence) : List String := (os.map (·.key)).eraseDups

theorem mem_keys {os : List Occurrence} {key : String} : key ∈ keys os ↔ ∃ o ∈ os, o.key = key := by
  simp [keys]

theorem nodup_keys (os : List Occurrence) : (keys os).Nodup := nodup_eraseDups _

theorem addOccurrence_nil (o : Occurrence) : addOccurrence [] o = [soleGroup o] := by
  cases o <;> rfl

theorem addOccurrence_cons (g : Group) (gs : List Group) (o : Occurrence) :
    addOccurrence (g :: gs) o =
      if g.key = o.key then { g with sets := g.sets ++ o.set?.toList } :: gs
      else g :: addOccurrence gs o := by
  cases o with
  | field node condition? => rfl
  | undefinedSpread node =>
    obtain ⟨key, origin, sets⟩ := g
    by_cases h : key = node.name <;>
      simp [addOccurrence, addSpread, Occurrence.key, Occurrence.set?, h]

theorem addOccurrence_of_ne {gs : List Group} {o : Occurrence} (h : ∀ g ∈ gs, g.key ≠ o.key) :
    addOccurrence gs o = gs ++ [soleGroup o] := by
  induction gs with
  | nil => exact addOccurrence_nil o
  | cons g gs ih =>
    simp only [List.forall_mem_cons] at h
    rw [addOccurrence_cons, if_neg h.1, ih h.2, List.cons_append]

theorem addOccurrence_of_mem {gs : List Group} {o : Occurrence} (hnodup : (gs.map (·.key)).Nodup)
    (h : o.key ∈ gs.map (·.key)) :
    addOccurrence gs o =
      gs.map fun g => if g.key = o.key then { g with sets := g.sets ++ o.set?.toList } else g := by
  induction gs with
  | nil => simp at h
  | cons g gs ih =>
    rw [List.map_cons, List.nodup_cons] at hnodup
    rw [addOccurrence_cons, List.map_cons]
    by_cases hg : g.key = o.key
    · have hrest : ∀ g' ∈ gs, g'.key ≠ o.key := fun g' hg' he =>
        hnodup.1 (List.mem_map.mpr ⟨g', hg', he.trans hg.symm⟩)
      rw [if_pos hg, if_pos hg]
      congr 1
      exact (List.map_id' gs).symm.trans
        (List.map_congr_left fun g' hg' => (if_neg (hrest g' hg')).symm)
    · have hmem : o.key ∈ gs.map (·.key) := by simpa [Ne.symm hg] using h
      rw [if_neg hg, if_neg hg, ih hnodup.2 hmem]

theorem groupOf_append_of_ne {os : List Occurrence} {o : Occurrence} {key : String}
    (hkey : key ∈ keys os) (hne : key ≠ o.key) : groupOf (os ++ [o]) key = groupOf os key := by
  obtain ⟨first, hfirst⟩ : ∃ first, os.find? (·.key = key) = some first := by
    obtain ⟨o', ho', hk⟩ := mem_keys.mp hkey
    exact Option.isSome_iff_exists.mp (List.find?_isSome.mpr ⟨o', ho', by simp [hk]⟩)
  simp [groupOf, hfirst, Ne.symm hne]

theorem groupOf_append_self {os : List Occurrence} {o : Occurrence} (hkey : o.key ∈ keys os) :
    groupOf (os ++ [o]) o.key =
      { groupOf os o.key with sets := (groupOf os o.key).sets ++ o.set?.toList } := by
  obtain ⟨first, hfirst⟩ : ∃ first, os.find? (·.key = o.key) = some first := by
    obtain ⟨o', ho', hk⟩ := mem_keys.mp hkey
    exact Option.isSome_iff_exists.mp (List.find?_isSome.mpr ⟨o', ho', by simp [hk]⟩)
  cases hset : o.set? <;> simp [groupOf, hfirst, hset]

theorem groupOf_append_new {os : List Occurrence} {o : Occurrence} (hkey : o.key ∉ keys os) :
    groupOf (os ++ [o]) o.key = soleGroup o := by
  have hnone : ∀ o' ∈ os, o'.key ≠ o.key := fun o' ho' he => hkey (mem_keys.mpr ⟨o', ho', he⟩)
  have hfind : os.find? (·.key = o.key) = none := by simpa using hnone
  have hfilter : os.filter (·.key = o.key) = [] := by simpa using hnone
  cases hset : o.set? <;> simp [groupOf, soleGroup, hfind, hfilter, hset]

theorem keys_append (os : List Occurrence) (o : Occurrence) :
    keys (os ++ [o]) = if o.key ∈ keys os then keys os else keys os ++ [o.key] := by
  by_cases h : o.key ∈ keys os
  · have hmem : o.key ∈ os.map (·.key) := List.mem_eraseDups.mp h
    simp [keys, List.eraseDups_append, List.cons_removeAll, hmem]
  · have hmem : o.key ∉ os.map (·.key) := fun hm => h (List.mem_eraseDups.mpr hm)
    simp [keys, List.eraseDups_append, List.cons_removeAll, List.eraseDups_cons, hmem]

@[simp] theorem map_key_groupOf (os : List Occurrence) (ks : List String) :
    (ks.map (groupOf os)).map (·.key) = ks := by
  simp [groupOf, Function.comp_def]

/-- Grouping reads off what the occurrences say about each of their keys. -/
theorem group_eq (os : List Occurrence) : group os = (keys os).map (groupOf os) := by
  induction os using List.reverseRecOn with
  | nil => rfl
  | append_singleton os o ih =>
    have hstep : group (os ++ [o]) = addOccurrence (group os) o := by
      simp [group, List.foldl_append]
    rw [hstep, ih, keys_append]
    by_cases hkey : o.key ∈ keys os
    · have hnodup : (((keys os).map (groupOf os)).map (·.key)).Nodup := by
        rw [map_key_groupOf]
        exact nodup_keys os
      rw [if_pos hkey, addOccurrence_of_mem hnodup (by rwa [map_key_groupOf]), List.map_map]
      apply List.map_congr_left
      intro key hmem
      by_cases hk : key = o.key
      · subst hk
        rw [groupOf_append_self hkey]
        simp [groupOf]
      · rw [groupOf_append_of_ne hmem hk]
        simp [groupOf, hk]
    · rw [if_neg hkey, addOccurrence_of_ne, List.map_append, List.map_singleton,
        groupOf_append_new hkey]
      · congr 1
        apply List.map_congr_left
        intro key hmem
        exact (groupOf_append_of_ne hmem fun he => hkey (he ▸ hmem)).symm
      · intro g hg
        obtain ⟨key, hmem, rfl⟩ := List.mem_map.mp hg
        exact fun he => hkey (he ▸ hmem)

/-- The response key of an origin. -/
def Origin.key : Origin → String
  | .field node _ => node.key
  | .undefinedSpread node => node.name

/-- The origin of a response key has this key. -/
theorem key_origin_groupOf (os : List Occurrence) (key : String) :
    (groupOf os key).origin.key = key := by
  unfold groupOf
  cases hfind : os.find? (·.key = key) with
  | none => rfl
  | some o =>
    have hkey : o.key = key := by simpa using List.find?_some hfind
    cases o <;> exact hkey

theorem mem_sets_groupOf {os : List Occurrence} {key : String} {set : List Syntax.Selection} :
    set ∈ (groupOf os key).sets ↔ ∃ o ∈ os, o.key = key ∧ o.set? = some set := by
  simp only [groupOf, List.mem_filterMap, List.mem_filter, decide_eq_true_eq]
  tauto

theorem sets_groupOf (os : List Occurrence) (key : String) :
    (groupOf os key).sets = os.filterMap fun o => if o.key = key then o.set? else none := by
  simp only [groupOf, ← List.filterMap_eq_filter, List.filterMap_filterMap]
  congr 1
  funext o
  by_cases ho : o.key = key <;> simp [Option.guard, ho]

section

variable {os os' : List Occurrence}

end

end OperationClasses.Selection
