import OperationClasses.Selection.Flatten

/-!
# Where spreads lead

Which spreads stand in selections, which fragments selections use, and what stands at the level
of a selection set once its fragments are opened. None of these says in which order a selection
is read, nor how often a fragment is opened.
-/
namespace OperationClasses.Selection

open Syntax

/-- A spread stands in the selections, in the selection sets of their fields included. -/
inductive Spreads : List Syntax.Selection → String → Prop where
  | here {selections : List Syntax.Selection} {name : String} {ds : List Directive} {offset : Nat} :
      .spread name ds offset ∈ selections → Spreads selections name
  | inline {selections inner : List Syntax.Selection} {name : String}
      {condition? : Option String} {ds : List Directive} :
      .inline condition? ds inner ∈ selections → Spreads inner name → Spreads selections name
  | field {selections inner : List Syntax.Selection} {name fieldName : String}
      {alias? : Option String} {args : List Argument} {ds : List Directive} {offset : Nat} :
      .field alias? fieldName args ds (some inner) offset ∈ selections → Spreads inner name →
      Spreads selections name

/-- A spread stands in the selection set of a field. -/
inductive SpreadsBelow : List Syntax.Selection → String → Prop where
  | inline {selections inner : List Syntax.Selection} {name : String}
      {condition? : Option String} {ds : List Directive} :
      .inline condition? ds inner ∈ selections → SpreadsBelow inner name →
      SpreadsBelow selections name
  | field {selections inner : List Syntax.Selection} {name fieldName : String}
      {alias? : Option String} {args : List Argument} {ds : List Directive} {offset : Nat} :
      .field alias? fieldName args ds (some inner) offset ∈ selections → Spreads inner name →
      SpreadsBelow selections name

/-- A spread stands in the selections or in a fragment that they use. -/
inductive Meets (fragments : Fragments) : List Syntax.Selection → String → Prop where
  | here {selections : List Syntax.Selection} {name : String} :
      Spreads selections name → Meets fragments selections name
  | inside {selections : List Syntax.Selection} {name via : String} {f : Fragment} :
      Spreads selections via → fragments.find? via = some f → Meets fragments f.selections name →
      Meets fragments selections name

/-- The selections use a fragment that is defined. -/
def Uses (fragments : Fragments) (selections : List Syntax.Selection) (name : String) : Prop :=
  Meets fragments selections name ∧ (fragments.find? name).isSome

/-- No fragment that the selections use leads back to itself through the selection set of a
field. -/
def NoFieldCycle (fragments : Fragments) (selections : List Syntax.Selection) : Prop :=
  ∀ name f via, Meets fragments selections name → fragments.find? name = some f →
    SpreadsBelow f.selections via →
    via ≠ name ∧ ∀ g, fragments.find? via = some g → ¬ Meets fragments g.selections name

/-- What stands at the level of a selection set: its fields and undefined spreads, those of its
inline fragments and of the fragments it spreads. The condition is that of the innermost
fragment around. -/
inductive Occurs (fragments : Fragments) :
    Option String → List Syntax.Selection → Occurrence → Prop where
  | field {condition? alias? : Option String} {selections : List Syntax.Selection} {name : String}
      {args : List Argument} {ds : List Directive} {inner? : Option (List Syntax.Selection)}
      {offset : Nat} :
      .field alias? name args ds inner? offset ∈ selections →
      Occurs fragments condition? selections
        (.field ⟨alias?, name, args, ds, inner?, offset⟩ condition?)
  | undefinedSpread {condition? : Option String} {selections : List Syntax.Selection}
      {name : String} {ds : List Directive} {offset : Nat} :
      .spread name ds offset ∈ selections → fragments.find? name = none →
      Occurs fragments condition? selections (.undefinedSpread ⟨name, ds, offset⟩)
  | inline {condition? inner? : Option String} {selections inner : List Syntax.Selection}
      {ds : List Directive} {o : Occurrence} :
      .inline inner? ds inner ∈ selections → Occurs fragments (inner?.or condition?) inner o →
      Occurs fragments condition? selections o
  | spread {condition? : Option String} {selections : List Syntax.Selection} {name : String}
      {ds : List Directive} {offset : Nat} {f : Fragment} {o : Occurrence} :
      .spread name ds offset ∈ selections → fragments.find? name = some f →
      Occurs fragments (some f.condition) f.selections o →
      Occurs fragments condition? selections o

mutual

/-- The names of the spreads in a selection, in the order of the text. -/
def spreadNames : Syntax.Selection → List String
  | .field _ _ _ _ inner? _ =>
    match inner? with
    | some inner => spreadNamesAll inner
    | none => []
  | .inline _ _ inner => spreadNamesAll inner
  | .spread name _ _ => [name]

def spreadNamesAll : List Syntax.Selection → List String
  | [] => []
  | s :: rest => spreadNames s ++ spreadNamesAll rest

end

mutual

/-- The names of the spreads in the selection sets of fields. -/
def spreadNamesBelow : Syntax.Selection → List String
  | .field _ _ _ _ inner? _ =>
    match inner? with
    | some inner => spreadNamesAll inner
    | none => []
  | .inline _ _ inner => spreadNamesBelowAll inner
  | .spread .. => []

def spreadNamesBelowAll : List Syntax.Selection → List String
  | [] => []
  | s :: rest => spreadNamesBelow s ++ spreadNamesBelowAll rest

end

theorem mem_spreadNamesAll {selections : List Syntax.Selection} {name : String} :
    name ∈ spreadNamesAll selections ↔ ∃ s ∈ selections, name ∈ spreadNames s := by
  induction selections with
  | nil => simp [spreadNamesAll]
  | cons s rest ih => simp [spreadNamesAll, ih]

theorem mem_spreadNamesBelowAll {selections : List Syntax.Selection} {name : String} :
    name ∈ spreadNamesBelowAll selections ↔ ∃ s ∈ selections, name ∈ spreadNamesBelow s := by
  induction selections with
  | nil => simp [spreadNamesBelowAll]
  | cons s rest ih => simp [spreadNamesBelowAll, ih]

theorem Spreads.mem {selections : List Syntax.Selection} {name : String}
    (h : Spreads selections name) : name ∈ spreadNamesAll selections := by
  induction h with
  | here hmem => exact mem_spreadNamesAll.mpr ⟨_, hmem, by simp [spreadNames]⟩
  | inline hmem _ ih => exact mem_spreadNamesAll.mpr ⟨_, hmem, by simpa [spreadNames] using ih⟩
  | field hmem _ ih => exact mem_spreadNamesAll.mpr ⟨_, hmem, by simpa [spreadNames] using ih⟩

theorem Spreads.mono {selections selections' : List Syntax.Selection} {name : String}
    (h : Spreads selections name) (hsub : selections ⊆ selections') :
    Spreads selections' name := by
  cases h with
  | here hmem => exact .here (hsub hmem)
  | inline hmem h => exact .inline (hsub hmem) h
  | field hmem h => exact .field (hsub hmem) h

mutual

theorem spreads_of_mem_spreadNames {s : Syntax.Selection} {selections : List Syntax.Selection}
    (hs : s ∈ selections) {name : String} (h : name ∈ spreadNames s) : Spreads selections name := by
  cases s with
  | field alias? fieldName args ds inner? offset =>
    cases inner? with
    | none => simp [spreadNames] at h
    | some inner => exact .field hs (spreads_of_mem (by simpa [spreadNames] using h))
  | inline condition? ds inner => exact .inline hs (spreads_of_mem (by simpa [spreadNames] using h))
  | spread spreadName ds offset =>
    obtain rfl : name = spreadName := by simpa [spreadNames] using h
    exact .here hs

theorem spreads_of_mem {selections : List Syntax.Selection} {name : String}
    (h : name ∈ spreadNamesAll selections) : Spreads selections name := by
  cases selections with
  | nil => simp [spreadNamesAll] at h
  | cons s rest =>
    rcases List.mem_append.mp h with h | h
    · exact spreads_of_mem_spreadNames (by simp) h
    · exact (spreads_of_mem h).mono (List.subset_cons_self s rest)

end

theorem spreads_iff_mem {selections : List Syntax.Selection} {name : String} :
    Spreads selections name ↔ name ∈ spreadNamesAll selections := ⟨Spreads.mem, spreads_of_mem⟩

theorem SpreadsBelow.mem {selections : List Syntax.Selection} {name : String}
    (h : SpreadsBelow selections name) : name ∈ spreadNamesBelowAll selections := by
  induction h with
  | inline hmem _ ih =>
    exact mem_spreadNamesBelowAll.mpr ⟨_, hmem, by simpa [spreadNamesBelow] using ih⟩
  | field hmem hinner =>
    exact mem_spreadNamesBelowAll.mpr ⟨_, hmem, by simpa [spreadNamesBelow] using hinner.mem⟩

theorem SpreadsBelow.mono {selections selections' : List Syntax.Selection} {name : String}
    (h : SpreadsBelow selections name) (hsub : selections ⊆ selections') :
    SpreadsBelow selections' name := by
  cases h with
  | inline hmem h => exact .inline (hsub hmem) h
  | field hmem h => exact .field (hsub hmem) h

mutual

theorem spreadsBelow_of_mem_spreadNamesBelow {s : Syntax.Selection}
    {selections : List Syntax.Selection} (hs : s ∈ selections) {name : String}
    (h : name ∈ spreadNamesBelow s) : SpreadsBelow selections name := by
  cases s with
  | field alias? fieldName args ds inner? offset =>
    cases inner? with
    | none => simp [spreadNamesBelow] at h
    | some inner => exact .field hs (spreads_of_mem (by simpa [spreadNamesBelow] using h))
  | inline condition? ds inner =>
    exact .inline hs (spreadsBelow_of_mem (by simpa [spreadNamesBelow] using h))
  | spread spreadName ds offset => simp [spreadNamesBelow] at h

theorem spreadsBelow_of_mem {selections : List Syntax.Selection} {name : String}
    (h : name ∈ spreadNamesBelowAll selections) : SpreadsBelow selections name := by
  cases selections with
  | nil => simp [spreadNamesBelowAll] at h
  | cons s rest =>
    rcases List.mem_append.mp h with h | h
    · exact spreadsBelow_of_mem_spreadNamesBelow (by simp) h
    · exact (spreadsBelow_of_mem h).mono (List.subset_cons_self s rest)

end

theorem spreadsBelow_iff_mem {selections : List Syntax.Selection} {name : String} :
    SpreadsBelow selections name ↔ name ∈ spreadNamesBelowAll selections :=
  ⟨SpreadsBelow.mem, spreadsBelow_of_mem⟩

theorem SpreadsBelow.spreads {selections : List Syntax.Selection} {name : String}
    (h : SpreadsBelow selections name) : Spreads selections name := by
  induction h with
  | inline hmem _ ih => exact .inline hmem ih
  | field hmem hinner => exact .field hmem hinner

theorem Meets.trans {fragments : Fragments} {selections : List Syntax.Selection}
    {via name : String} {f : Fragment} (h : Meets fragments selections via)
    (hf : fragments.find? via = some f) (h' : Meets fragments f.selections name) :
    Meets fragments selections name := by
  induction h with
  | here hs => exact .inside hs hf h'
  | inside hs hg _ ih => exact .inside hs hg (ih hf)

/-- What is met further in is met from here. -/
theorem Meets.of_spreads {fragments : Fragments} {selections inner : List Syntax.Selection}
    (hinner : ∀ n, Spreads inner n → Spreads selections n) {name : String}
    (h : Meets fragments inner name) : Meets fragments selections name := by
  cases h with
  | here hs => exact .here (hinner _ hs)
  | inside hs hf h => exact .inside (hinner _ hs) hf h

namespace Fragments

open OperationClasses.Fragments

variable {fragments : Fragments} {name : String} {f : Fragment}

theorem find?_mem (h : fragments.find? name = some f) : f ∈ fragments := by
  simpa using List.mem_of_find?_eq_some h

theorem find?_name (h : fragments.find? name = some f) : f.name = name := by
  simpa using List.find?_some h

theorem mem_names_of_find? (h : fragments.find? name = some f) : name ∈ fragments.names := by
  simp only [OperationClasses.Fragments.names, List.mem_eraseDups, List.mem_map]
  exact ⟨f, find?_mem h, find?_name h⟩

end Fragments

/-- What selections meet is spread in the text of the selections or of a fragment. -/
theorem Meets.mem_spreadNames {fragments : Fragments} {selections : List Syntax.Selection}
    {name : String} (h : Meets fragments selections name) :
    name ∈ spreadNamesAll selections ∨ ∃ f ∈ fragments, name ∈ spreadNamesAll f.selections := by
  induction h with
  | here hs => exact .inl hs.mem
  | inside _ hf _ ih =>
    rcases ih with hname | hother
    · exact .inr ⟨_, Fragments.find?_mem hf, hname⟩
    · exact .inr hother

end OperationClasses.Selection
