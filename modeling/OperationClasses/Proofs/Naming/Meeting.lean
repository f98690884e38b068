import Mathlib.Data.List.Nodup
import OperationClasses.Proofs.Selection.Thinning
import OperationClasses.Resolver

/-!
# Names in the order in which they are met

A list of names grows when a name is met for the first time. What was met before decides which
names are new, but not the order of those that are.
-/
namespace OperationClasses

/-- Adds names that are met one after another. -/
def meetAll (met names : List String) : List String :=
  names.foldl (fun met name => meet met (some name)) met

theorem mem_meet {met : List String} {name? : Option String} {name : String} :
    name ∈ meet met name? ↔ name ∈ met ∨ name? = some name := by
  cases name? with
  | none => simp [meet]
  | some other =>
    by_cases hother : other ∈ met
    · simp only [meet, List.contains_eq_mem, hother, decide_true, ↓reduceIte, Option.some.injEq]
      exact ⟨.inl, fun h => h.elim id fun h => h ▸ hother⟩
    · simp [meet, hother, eq_comm]

theorem nodup_meetAll {met : List String} (h : met.Nodup) (names : List String) :
    (meetAll met names).Nodup := by
  induction names generalizing met with
  | nil => exact h
  | cons name names ih =>
    refine ih ?_
    by_cases hname : name ∈ met
    · simpa [meet, hname] using h
    · simpa [meet, hname] using List.Nodup.concat hname h

theorem mem_meetAll {met names : List String} {name : String} :
    name ∈ meetAll met names ↔ name ∈ met ∨ name ∈ names := by
  induction names generalizing met with
  | nil => simp [meetAll]
  | cons other names ih =>
    have hstep : meetAll met (other :: names) = meetAll (meet met (some other)) names := rfl
    rw [hstep, ih, mem_meet, List.mem_cons, or_assoc, Option.some.injEq, eq_comm (a := other)]

/-- Meeting names after others adds those that are new, in the order in which they would have been
met without the others. -/
theorem meetAll_append_filter (met l names : List String) :
    meetAll (met ++ l.filter (· ∉ met)) names = met ++ (meetAll l names).filter (· ∉ met) := by
  induction names generalizing l with
  | nil => rfl
  | cons name names ih =>
    have hstep : meet (met ++ l.filter (· ∉ met)) (some name) =
        met ++ (meet l (some name)).filter (· ∉ met) := by
      by_cases hmet : name ∈ met <;> by_cases hl : name ∈ l <;> simp [meet, hmet, hl]
    have h := ih (meet l (some name))
    rw [← hstep] at h
    exact h

theorem meetAll_eq (met names : List String) :
    meetAll met names = met ++ (meetAll [] names).filter (· ∉ met) := by
  simpa using meetAll_append_filter met [] names

/-- What is added are the names that were not met before, where they stand first. -/
theorem exists_thinned_meetAll (met names : List String) :
    ∃ new, meetAll met names = met ++ new ∧ Thinned met names new := by
  induction names generalizing met with
  | nil => exact ⟨[], (List.append_nil met).symm, .nil⟩
  | cons name names ih =>
    have hstep : meetAll met (name :: names) = meetAll (meet met (some name)) names := rfl
    rw [hstep]
    obtain ⟨new, hnew, hthin⟩ := ih (meet met (some name))
    by_cases hname : name ∈ met
    · have hmeet : meet met (some name) = met := by simp [meet, hname]
      rw [hmeet] at hnew hthin ⊢
      exact ⟨new, hnew, .drop hname hthin⟩
    · have hmeet : meet met (some name) = met ++ [name] := by simp [meet, hname]
      rw [hmeet] at hnew hthin ⊢
      refine ⟨name :: new, by simpa using hnew, .keep name (hthin.mono fun a ha => ?_)⟩
      simpa [or_comm] using ha

/-- Names that are met one after another are listed where they stand first. -/
theorem meetAll_nil (names : List String) : meetAll [] names = names.eraseDups := by
  obtain ⟨new, hnew, hthin⟩ := exists_thinned_meetAll [] names
  have hnodup : (meetAll [] names).Nodup := nodup_meetAll List.nodup_nil names
  rw [List.nil_append] at hnew
  rw [hnew] at hnodup ⊢
  rw [hthin.eraseDups_eq, eraseDups_of_nodup hnodup]

/-- Names that stand further behind again are of no account. -/
theorem meetAll_eraseDups (met names : List String) :
    meetAll met names.eraseDups = meetAll met names := by
  rw [meetAll_eq met names.eraseDups, meetAll_eq met names, meetAll_nil, meetAll_nil,
    eraseDups_of_nodup (nodup_eraseDups names)]

theorem meetAll_append (met names names' : List String) :
    meetAll met (names ++ names') = meetAll (meetAll met names) names' :=
  List.foldl_append

end OperationClasses
