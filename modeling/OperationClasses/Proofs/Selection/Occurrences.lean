import OperationClasses.Proofs.Selection.Expansion
import OperationClasses.Proofs.Selection.Reach
import OperationClasses.Selection.Merge

/-!
# Flattening as an expansion

Flattening a selection set is a depth-first expansion whose bodies are the fragments. It lists
what stands at the level of the set, does not depend on its bound, and looks at no fragment that
the selections do not use.
-/
namespace OperationClasses.Selection

open Syntax Expansion

mutual

/-- A selection as steps of an expansion. -/
def steps (fragments : Fragments) (condition? : Option String) :
    Syntax.Selection → List (Step Occurrence)
  | .field alias? name args ds inner? offset =>
    [.say (.field ⟨alias?, name, args, ds, inner?, offset⟩ condition?)]
  | .inline inner? _ selections => stepsAll fragments (inner?.or condition?) selections
  | .spread name ds offset =>
    match fragments.find? name with
    | none => [.say (.undefinedSpread ⟨name, ds, offset⟩)]
    | some _ => [.enter name]

def stepsAll (fragments : Fragments) (condition? : Option String) :
    List Syntax.Selection → List (Step Occurrence)
  | [] => []
  | s :: rest => steps fragments condition? s ++ stepsAll fragments condition? rest

end

/-- The steps of a fragment. -/
def bodies (fragments : Fragments) : Bodies Occurrence := fun name =>
  (fragments.find? name).map fun f => stepsAll fragments (some f.condition) f.selections

theorem bodies_mem_names {fragments : Fragments} (name : String) (body : List (Step Occurrence))
    (h : bodies fragments name = some body) : name ∈ fragments.names := by
  obtain ⟨f, hf, _⟩ := Option.map_eq_some_iff.mp h
  exact Fragments.mem_names_of_find? hf

/-- What a step stands for, given what a fragment expands to. -/
def interpret (enter : String → List Occurrence) : Step Occurrence → List Occurrence
  | .say o => [o]
  | .enter name => enter name

mutual

theorem flattenOne_eq {fragments : Fragments} {expand : SpreadNode → List Occurrence}
    {enter : String → List Occurrence}
    (hdefined : ∀ s, (fragments.find? s.name).isSome → expand s = enter s.name)
    (hundefined : ∀ s, fragments.find? s.name = none → expand s = [.undefinedSpread s])
    (condition? : Option String) (s : Syntax.Selection) :
    flattenOne expand condition? s = (steps fragments condition? s).flatMap (interpret enter) := by
  cases s with
  | field => simp [flattenOne, steps, interpret]
  | inline inner? ds selections =>
    simpa [flattenOne, steps] using
      flattenAll_eq hdefined hundefined (inner?.or condition?) selections
  | spread name ds offset =>
    cases hf : fragments.find? name with
    | none => simp [flattenOne, steps, hf, interpret, hundefined ⟨name, ds, offset⟩ hf]
    | some f =>
      simp [flattenOne, steps, hf, interpret, hdefined ⟨name, ds, offset⟩ (by simp [hf])]

theorem flattenAll_eq {fragments : Fragments} {expand : SpreadNode → List Occurrence}
    {enter : String → List Occurrence}
    (hdefined : ∀ s, (fragments.find? s.name).isSome → expand s = enter s.name)
    (hundefined : ∀ s, fragments.find? s.name = none → expand s = [.undefinedSpread s])
    (condition? : Option String) (selections : List Syntax.Selection) :
    flattenAll expand condition? selections =
      (stepsAll fragments condition? selections).flatMap (interpret enter) := by
  cases selections with
  | nil => simp [flattenAll, stepsAll]
  | cons s rest =>
    rw [flattenAll, stepsAll, List.flatMap_append,
      flattenOne_eq hdefined hundefined condition? s,
      flattenAll_eq hdefined hundefined condition? rest]

end

/-- A step of selections or of one of their inline fragments. -/
inductive StepAt (fragments : Fragments) :
    Option String → List Syntax.Selection → Step Occurrence → Prop where
  | field {c alias? : Option String} {selections : List Syntax.Selection} {name : String}
      {args : List Argument} {ds : List Directive} {inner? : Option (List Syntax.Selection)}
      {offset : ℕ} : .field alias? name args ds inner? offset ∈ selections →
      StepAt fragments c selections
        (.say (.field ⟨alias?, name, args, ds, inner?, offset⟩ c))
  | undefinedSpread {c : Option String} {selections : List Syntax.Selection} {name : String}
      {ds : List Directive} {offset : ℕ} : .spread name ds offset ∈ selections →
      fragments.find? name = none →
      StepAt fragments c selections (.say (.undefinedSpread ⟨name, ds, offset⟩))
  | spread {c : Option String} {selections : List Syntax.Selection} {name : String}
      {ds : List Directive} {offset : ℕ} {f : Fragment} :
      .spread name ds offset ∈ selections →
      fragments.find? name = some f → StepAt fragments c selections (.enter name)
  | inline {c inner? : Option String} {selections inner : List Syntax.Selection}
      {ds : List Directive} {step : Step Occurrence} : .inline inner? ds inner ∈ selections →
      StepAt fragments (inner?.or c) inner step → StepAt fragments c selections step

theorem mem_stepsAll {fragments : Fragments} {c : Option String}
    {selections : List Syntax.Selection} {step : Step Occurrence} :
    step ∈ stepsAll fragments c selections ↔ ∃ s ∈ selections, step ∈ steps fragments c s := by
  induction selections with
  | nil => simp [stepsAll]
  | cons s rest ih => simp [stepsAll, ih]

theorem StepAt.mem {fragments : Fragments} {c : Option String}
    {selections : List Syntax.Selection} {step : Step Occurrence}
    (h : StepAt fragments c selections step) : step ∈ stepsAll fragments c selections := by
  induction h with
  | field hmem => exact mem_stepsAll.mpr ⟨_, hmem, by simp [steps]⟩
  | undefinedSpread hmem hf => exact mem_stepsAll.mpr ⟨_, hmem, by simp [steps, hf]⟩
  | spread hmem hf => exact mem_stepsAll.mpr ⟨_, hmem, by simp [steps, hf]⟩
  | inline hmem _ ih => exact mem_stepsAll.mpr ⟨_, hmem, by simpa [steps] using ih⟩

mutual

theorem stepAt_of_mem_steps {fragments : Fragments} (s : Syntax.Selection) {c : Option String}
    {selections : List Syntax.Selection} (hs : s ∈ selections) {step : Step Occurrence}
    (h : step ∈ steps fragments c s) : StepAt fragments c selections step := by
  cases s with
  | field alias? name args ds inner? offset =>
    simp only [steps, List.mem_singleton] at h
    exact h ▸ .field hs
  | inline inner? ds inner =>
    rw [steps] at h
    exact .inline hs (stepAt_of_mem_stepsAll inner (List.Subset.refl _) h)
  | spread name ds offset =>
    cases hf : fragments.find? name with
    | none =>
      simp only [steps, hf, List.mem_singleton] at h
      exact h ▸ .undefinedSpread hs hf
    | some f =>
      simp only [steps, hf, List.mem_singleton] at h
      exact h ▸ .spread hs hf

theorem stepAt_of_mem_stepsAll {fragments : Fragments} (part : List Syntax.Selection)
    {c : Option String} {selections : List Syntax.Selection} (hpart : part ⊆ selections)
    {step : Step Occurrence} (h : step ∈ stepsAll fragments c part) :
    StepAt fragments c selections step := by
  cases part with
  | nil => simp [stepsAll] at h
  | cons s rest =>
    rw [List.cons_subset] at hpart
    rw [stepsAll, List.mem_append] at h
    rcases h with h | h
    · exact stepAt_of_mem_steps s hpart.1 h
    · exact stepAt_of_mem_stepsAll rest hpart.2 h

end

theorem mem_stepsAll_iff {fragments : Fragments} {c : Option String}
    {selections : List Syntax.Selection} {step : Step Occurrence} :
    step ∈ stepsAll fragments c selections ↔ StepAt fragments c selections step :=
  ⟨stepAt_of_mem_stepsAll selections (List.Subset.refl _), StepAt.mem⟩

/-- Only fragments that are defined and spread here are entered. -/
theorem StepAt.enter {fragments : Fragments} {c : Option String}
    {selections : List Syntax.Selection} {step : Step Occurrence} {name : String}
    (h : StepAt fragments c selections step) (he : step = .enter name) :
    Spreads selections name ∧ (fragments.find? name).isSome := by
  induction h with
  | field => cases he
  | undefinedSpread => cases he
  | spread hmem hf =>
    cases he
    exact ⟨.here hmem, by simp [hf]⟩
  | inline hmem _ ih => exact ⟨.inline hmem (ih he).1, (ih he).2⟩

theorem flattenWithin_eq_along (fragments : Fragments) (fuel : ℕ) {path : List String}
    (hpath : ∀ name ∈ path, (fragments.find? name).isSome) (condition? : Option String)
    (selections : List Syntax.Selection) :
    flattenWithin fragments fuel path condition? selections =
      along (bodies fragments) fuel path (stepsAll fragments condition? selections) := by
  induction fuel generalizing path condition? selections with
  | zero => rfl
  | succ fuel ih =>
    rw [flattenWithin, @flattenAll_eq fragments _ fun name =>
      if name ∈ path then [] else match fragments.find? name with
        | none => []
        | some f => flattenWithin fragments fuel (name :: path) (some f.condition) f.selections,
      along]
    · apply List.flatMap_congr
      intro step hstep
      cases step with
      | say o => rfl
      | enter name =>
        obtain ⟨f, hf⟩ := Option.isSome_iff_exists.mp ((mem_stepsAll_iff.mp hstep).enter rfl).2
        have hpath' : ∀ n ∈ name :: path, (fragments.find? n).isSome := by
          simpa [hf] using hpath
        by_cases hname : name ∈ path
        · simp [interpret, hname]
        · simpa [interpret, hname, hf, bodies] using ih hpath' (some f.condition) f.selections
    · intro s hs
      obtain ⟨f, hf⟩ := Option.isSome_iff_exists.mp hs
      simp [hf]
    · intro s hs
      have hname : s.name ∉ path := fun hp => by simpa [hs] using hpath s.name hp
      simp [hname, hs]

theorem flatten_eq_along (fragments : Fragments) (selections : List Syntax.Selection) :
    flatten fragments selections =
      along (bodies fragments) (fragments.names.length + 1) []
        (stepsAll fragments none selections) :=
  flattenWithin_eq_along fragments _ (by simp) none selections

theorem Occurs.leadsTo {fragments : Fragments} {c : Option String}
    {selections : List Syntax.Selection} {o : Occurrence} (h : Occurs fragments c selections o) :
    LeadsTo (bodies fragments) (stepsAll fragments c selections) o := by
  induction h with
  | field hmem => exact .here (StepAt.mem (.field hmem))
  | undefinedSpread hmem hf => exact .here (StepAt.mem (.undefinedSpread hmem hf))
  | inline hmem _ ih =>
    refine ih.mono fun step hstep => ?_
    exact StepAt.mem (.inline hmem (mem_stepsAll_iff.mp hstep))
  | spread hmem hf _ ih =>
    exact .inside (StepAt.mem (.spread hmem hf)) (by simp [bodies, hf]) ih

theorem StepAt.occurs {fragments : Fragments} {c : Option String}
    {selections : List Syntax.Selection} {step : Step Occurrence}
    (h : StepAt fragments c selections step) {o : Occurrence}
    (ho : step = .say o ∨ ∃ name f, step = .enter name ∧ fragments.find? name = some f ∧
      Occurs fragments (some f.condition) f.selections o) : Occurs fragments c selections o := by
  induction h with
  | field hmem =>
    rcases ho with ho | ⟨_, _, ho, _⟩
    · cases ho
      exact .field hmem
    · cases ho
  | undefinedSpread hmem hf =>
    rcases ho with ho | ⟨_, _, ho, _⟩
    · cases ho
      exact .undefinedSpread hmem hf
    · cases ho
  | spread hmem _ =>
    rcases ho with ho | ⟨_, f, ho, hf, hinner⟩
    · cases ho
    · cases ho
      exact .spread hmem hf hinner
  | inline hmem _ ih => exact .inline hmem (ih ho)

theorem Occurs.of_leadsTo {fragments : Fragments} {text : List (Step Occurrence)} {o : Occurrence}
    (h : LeadsTo (bodies fragments) text o) {c : Option String}
    {selections : List Syntax.Selection} (htext : text = stepsAll fragments c selections) :
    Occurs fragments c selections o := by
  induction h generalizing c selections with
  | here hmem => exact (mem_stepsAll_iff.mp (htext ▸ hmem)).occurs (.inl rfl)
  | inside hmem hbody _ ih =>
    obtain ⟨f, hf, rfl⟩ := Option.map_eq_some_iff.mp hbody
    exact (mem_stepsAll_iff.mp (htext ▸ hmem)).occurs (.inr ⟨_, f, rfl, hf, ih rfl⟩)

/-- Flattening lists what stands at the level of the selections, and nothing else. -/
theorem mem_flatten_iff {fragments : Fragments} {selections : List Syntax.Selection}
    {o : Occurrence} : o ∈ flatten fragments selections ↔ Occurs fragments none selections o := by
  rw [flatten_eq_along, mem_along_iff bodies_mem_names]
  exact ⟨fun h => .of_leadsTo h rfl, Occurs.leadsTo⟩

end OperationClasses.Selection
