import Mathlib.Data.List.Basic
import Mathlib.Data.List.Forall2

/-!
# Thinned lists

A list is thinned by leaving out elements that stood earlier in it. What stands first of its
kind stays, so the order of first occurrences, the first element with a property and the set of
elements are the same before and after.
-/
namespace OperationClasses

/-- `Thinned seen l l'` says that `l'` is `l` without some elements that were in `seen` or stood
earlier in `l`. -/
inductive Thinned {α : Type*} : List α → List α → List α → Prop where
  | nil {seen : List α} : Thinned seen [] []
  | keep {seen l l' : List α} (x : α) : Thinned (x :: seen) l l' → Thinned seen (x :: l) (x :: l')
  | drop {seen l l' : List α} {x : α} : x ∈ seen → Thinned seen l l' → Thinned seen (x :: l) l'

namespace Thinned

variable {α β : Type*} {seen seen' l l' l'' m m' : List α}

theorem refl (seen l : List α) : Thinned seen l l := by
  induction l generalizing seen with
  | nil => exact .nil
  | cons x l ih => exact .keep x (ih _)

theorem mono (h : Thinned seen l l') (hs : seen ⊆ seen') : Thinned seen' l l' := by
  induction h generalizing seen' with
  | nil => exact .nil
  | keep x _ ih => exact .keep x (ih (List.cons_subset_cons x hs))
  | drop hx _ ih => exact .drop (hs hx) (ih hs)

theorem subset (h : Thinned seen l l') : l' ⊆ l := by
  induction h with
  | nil => exact List.Subset.refl _
  | keep x _ ih => exact List.cons_subset_cons x ih
  | drop _ _ ih => exact List.subset_cons_of_subset _ ih

theorem mem_or_mem (h : Thinned seen l l') {a : α} (ha : a ∈ l) : a ∈ seen ∨ a ∈ l' := by
  induction h with
  | nil => simp at ha
  | keep x _ ih =>
    rcases List.mem_cons.mp ha with rfl | ha
    · exact .inr (by simp)
    · rcases ih ha with hs | hl
      · rcases List.mem_cons.mp hs with rfl | hs
        · exact .inr (by simp)
        · exact .inl hs
      · exact .inr (List.mem_cons_of_mem x hl)
  | drop hx _ ih =>
    rcases List.mem_cons.mp ha with rfl | ha
    · exact .inl hx
    · exact ih ha

theorem mem_iff (h : Thinned [] l l') {a : α} : a ∈ l' ↔ a ∈ l := by
  refine ⟨fun ha => h.subset ha, fun ha => ?_⟩
  simpa using h.mem_or_mem ha

/-- Everything that was seen before may go. -/
theorem of_subset (h : l ⊆ seen) : Thinned seen l [] := by
  induction l with
  | nil => exact .nil
  | cons x l ih =>
    rw [List.cons_subset] at h
    exact .drop h.1 (ih h.2)

/-- Two runs one behind the other; what the first one said counts as seen by the second. -/
theorem append (h : Thinned seen l l') (h' : Thinned (seen ++ l') m m') :
    Thinned seen (l ++ m) (l' ++ m') := by
  induction h with
  | nil => simpa using h'
  | @keep seen l l' x _ ih =>
    refine .keep x (ih (h'.mono ?_))
    intro a ha
    simp only [List.mem_append, List.mem_cons] at ha ⊢
    tauto
  | drop hx _ ih => exact .drop hx (ih h')

theorem trans (h : Thinned seen l l') (h' : Thinned seen l' l'') : Thinned seen l l'' := by
  induction h generalizing l'' with
  | nil => exact h'
  | keep x _ ih =>
    cases h' with
    | keep _ h' => exact .keep x (ih h')
    | drop hx h' =>
      exact .drop hx ((ih (h'.mono (List.subset_cons_self x _))).mono (by simpa using hx))
  | drop hx _ ih => exact .drop hx (ih h')

theorem filterMap (f : α → Option β) (h : Thinned seen l l') :
    Thinned (seen.filterMap f) (l.filterMap f) (l'.filterMap f) := by
  induction h with
  | nil => exact .nil
  | keep x _ ih =>
    cases hx : f x with
    | none => simpa [List.filterMap_cons, hx] using ih
    | some y => simpa [List.filterMap_cons, hx] using Thinned.keep y (by simpa [hx] using ih)
  | @drop seen l l' x hs _ ih =>
    cases hx : f x with
    | none => simpa [List.filterMap_cons, hx] using ih
    | some y =>
      have hy : y ∈ seen.filterMap f := List.mem_filterMap.mpr ⟨x, hs, hx⟩
      simpa [List.filterMap_cons, hx] using Thinned.drop hy ih

theorem map (f : α → β) (h : Thinned seen l l') : Thinned (seen.map f) (l.map f) (l'.map f) := by
  simpa [List.filterMap_eq_map'] using h.filterMap fun a => some (f a)

theorem flatMap (f : α → List β) (h : Thinned seen l l') :
    Thinned (seen.flatMap f) (l.flatMap f) (l'.flatMap f) := by
  induction h with
  | nil => exact .nil
  | keep x _ ih =>
    rw [List.flatMap_cons, List.flatMap_cons]
    refine (refl _ (f x)).append (ih.mono ?_)
    intro a ha
    simp only [List.flatMap_cons, List.mem_append] at ha ⊢
    tauto
  | @drop seen l l' x hs _ ih =>
    rw [List.flatMap_cons]
    have hx : f x ⊆ seen.flatMap f := fun a ha => List.mem_flatMap.mpr ⟨x, hs, ha⟩
    simpa using (of_subset hx).append (by simpa using ih)

/-- Both lists have the same first occurrences, beside those that were seen before. -/
theorem eraseDups_removeAll_eq [BEq α] [LawfulBEq α] (h : Thinned seen l l') :
    (l.removeAll seen).eraseDups = (l'.removeAll seen).eraseDups := by
  induction h with
  | nil => rfl
  | @keep seen l l' x _ ih =>
    have hcons : ∀ k : List α, k.removeAll (x :: seen) = (k.removeAll seen).filter (!· == x) := by
      intro k
      simp [List.removeAll]
    rw [hcons, hcons] at ih
    by_cases hx : x ∈ seen
    · have hsame : ∀ k : List α, (k.removeAll seen).filter (!· == x) = k.removeAll seen := by
        intro k
        rw [List.filter_eq_self]
        intro a ha
        have hna : a ∉ seen := by simpa using (List.mem_filter.mp ha).2
        have hne : a ≠ x := fun he => hna (he ▸ hx)
        simpa using hne
      rw [hsame, hsame] at ih
      simpa [List.cons_removeAll, hx] using ih
    · simp only [List.cons_removeAll, List.contains_eq_mem, hx, decide_false, ↓reduceIte,
        List.eraseDups_cons, ih]
  | drop hx _ ih => simpa [List.cons_removeAll, hx] using ih

theorem eraseDups_eq [BEq α] [LawfulBEq α] (h : Thinned [] l l') : l.eraseDups = l'.eraseDups := by
  simpa using h.eraseDups_removeAll_eq

end Thinned

theorem nodup_eraseDups {α : Type*} [BEq α] [LawfulBEq α] (l : List α) : l.eraseDups.Nodup := by
  induction hn : l.length using Nat.strongRecOn generalizing l with
  | ind n ih =>
    cases l with
    | nil => simp
    | cons x l =>
      have hlt : (l.filter (!· == x)).length < n := by
        have := List.length_filter_le (fun b => !b == x) l
        simp only [List.length_cons] at hn
        omega
      rw [List.eraseDups_cons, List.nodup_cons]
      exact ⟨by simp, ih _ hlt _ rfl⟩

theorem eraseDups_of_nodup {α : Type*} [BEq α] [LawfulBEq α] {l : List α} (h : l.Nodup) :
    l.eraseDups = l := by
  induction l with
  | nil => rfl
  | cons x l ih =>
    rw [List.nodup_cons] at h
    have hfilter : l.filter (!· == x) = l := by
      rw [List.filter_eq_self]
      intro a ha
      have hne : a ≠ x := fun he => h.1 (he ▸ ha)
      simpa using hne
    rw [List.eraseDups_cons, hfilter, ih h.2]

end OperationClasses
