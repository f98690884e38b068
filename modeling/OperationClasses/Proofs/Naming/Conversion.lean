import OperationClasses.Proofs.Generation.TopLevelNames

/-!
# Conversion of word case

The snake form of a name is its lower form with underscores put in, and the Pascal form has the same
letters and digits and no underscore. Neither form changes when the name is brought into snake form
before. A wrapper name begins with a small letter, the first one of an operation kind, so the class
and the function for an operation have names that begin with a letter.
-/
namespace OperationClasses

open Syntax Text

namespace Naming

/-- The second text is the first one with underscores put in, and nothing else. -/
inductive Underscored : List Char → List Char → Prop
  | nil : Underscored [] []
  | keep (c : Char) {s t : List Char} : Underscored s t → Underscored (c :: s) (c :: t)
  | mark {s t : List Char} : Underscored s t → Underscored s ('_' :: t)

namespace Underscored

theorem refl (s : List Char) : Underscored s s := by
  induction s with
  | nil => exact .nil
  | cons c rest ih => exact .keep c ih

theorem trans {s t u : List Char} (h : Underscored s t) (h' : Underscored t u) :
    Underscored s u := by
  induction h' generalizing s with
  | nil => exact h
  | mark _ ih => exact .mark (ih h)
  | keep c _ ih =>
    cases h with
    | keep _ h => exact .keep c (ih h)
    | mark h => exact .mark (ih h)

/-- An underscore has no case. -/
theorem map_toLower {s t : List Char} (h : Underscored s t) :
    Underscored (s.map Char.toLower) (t.map Char.toLower) := by
  induction h with
  | nil => exact .nil
  | keep c _ ih => exact .keep c.toLower ih
  | mark _ ih => exact .mark ih

end Underscored

theorem underscored_breakWords (inWord : Bool) (s : List Char) :
    Underscored s (breakWords inWord s) := by
  fun_induction breakWords inWord s with
  | case1 => exact .nil
  | case2 _ c => exact .refl [c]
  | case3 _ c d => exact .refl [c, d]
  | case4 _ c u l rest _ ih => exact .keep c ih
  | case5 _ c u l rest _ _ ih => exact .keep c (.mark (.keep u (.keep l ih)))
  | case6 _ c u l rest _ _ ih => exact .keep c ih

theorem underscored_breakCapitals (s : List Char) : Underscored s (breakCapitals s) := by
  fun_induction breakCapitals s with
  | case1 => exact .nil
  | case2 c => exact .refl [c]
  | case3 c u rest _ ih => exact .keep c (.mark ih)
  | case4 c u rest _ ih => exact .keep c ih

/-- Of a name only its case is changed, and underscores are put in. -/
theorem underscored_snakeChars {s : List Char} (h : Plain s) :
    Underscored (lower s) (snakeChars s) := by
  have hbroken := (underscored_breakWords false s).trans (underscored_breakCapitals _)
  rw [snakeChars, lower, lower, lowerFrom_eq_map fun c hc => toNat_lt_of_isNamePart (h c hc),
    lowerFrom_eq_map fun c hc => toNat_lt_of_isNamePart (plain_breakCapitals h c hc)]
  exact hbroken.map_toLower

theorem breakWords_of_isSnake {s : List Char} (h : ∀ c ∈ s, isSnake c) (inWord : Bool) :
    breakWords inWord s = s := by
  fun_induction breakWords inWord s with
  | case1 => rfl
  | case2 => rfl
  | case3 => rfl
  | case4 _ c u l rest _ ih => rw [ih fun d hd => h d (List.mem_cons_of_mem c hd)]
  | case5 _ c u l rest _ hcapital ih =>
    have hu : ¬ isCapital u := not_isCapital_of_isSnake (h u (by simp))
    simp [hu] at hcapital
  | case6 _ c u l rest _ _ ih => rw [ih fun d hd => h d (List.mem_cons_of_mem c hd)]

theorem breakCapitals_of_isSnake {s : List Char} (h : ∀ c ∈ s, isSnake c) :
    breakCapitals s = s := by
  fun_induction breakCapitals s with
  | case1 => rfl
  | case2 => rfl
  | case3 c u rest hcapital ih =>
    have hu : ¬ isCapital u := not_isCapital_of_isSnake (h u (by simp))
    simp [hu] at hcapital
  | case4 c u rest _ ih => rw [ih fun d hd => h d (List.mem_cons_of_mem c hd)]

/-- A text without capitals is in snake form already. -/
theorem snakeChars_of_isSnake {s : List Char} (h : ∀ c ∈ s, isSnake c) : snakeChars s = s := by
  have hlower : s.map Char.toLower = s :=
    (List.map_congr_left fun c hc => toLower_of_isSnake (h c hc)).trans (List.map_id _)
  rw [snakeChars, breakWords_of_isSnake h, breakCapitals_of_isSnake h, lower,
    lowerFrom_eq_map fun c hc => toNat_lt_of_isSnake (h c hc), hlower]

theorem snakeCase_snakeCase {name : String} (h : isName name) :
    snakeCase (snakeCase name) = snakeCase name := by
  have hsnake : ∀ c ∈ snakeChars name.toList, isSnake c :=
    fun c hc => isSnake_of_mem_snakeChars (fun d hd => isNamePart_of_mem h hd) hc
  rw [snakeCase, snakeCase, String.toList_ofList, snakeChars_of_isSnake hsnake]

/-- Underscores are lost in the Pascal form, as it has no other characters than the lower form of the
name without them. -/
theorem lower_pascalChars {s : List Char} (h : Plain s) :
    lower (pascalChars s) = (lower s).filter (· ≠ '_') := by
  have hmark : ∀ c ∈ s, (c.toLower ≠ '_') = (c ≠ '_') := by
    intro c hc
    exact forall_ascii (P := fun c => (c.toLower ≠ '_') = (c ≠ '_')) (by decide)
      (toNat_lt_of_isNamePart (h c hc))
  have hfilter : (s.map Char.toLower).filter (· ≠ '_') = (s.filter (· ≠ '_')).map Char.toLower := by
    rw [List.filter_map]
    refine congrArg _ (List.filter_congr fun c hc => ?_)
    simp only [Function.comp_apply, hmark c hc]
  rw [lower, lower, lowerFrom_eq_map fun c hc => toNat_lt_of_isNamePart (h c hc), hfilter,
    lowerFrom_eq_map fun c hc => toNat_lt_of_isNamePart (plain_pascalChars h c hc),
    map_toLower_pascalChars h]

theorem underscore_not_mem_pascalChars {s : List Char} (h : Plain s) : '_' ∉ pascalChars s := by
  intro hmem
  have hlower : '_' ∈ lower (pascalChars s) := by
    rw [lower, lowerFrom_eq_map fun c hc => toNat_lt_of_isNamePart (plain_pascalChars h c hc)]
    exact List.mem_map_of_mem hmem
  rw [lower_pascalChars h] at hlower
  simpa using (List.mem_filter.mp hlower).2

/-- Changing the case of the words of a name changes nothing but case and underscores. -/
structure OnlyCaseChanges (name : String) : Prop where
  snake : Underscored (lowerText name).toList (snakeCase name).toList
  snake_snake : snakeCase (snakeCase name) = snakeCase name
  pascal : '_' ∉ (pascalCase name).toList
  pascal_snake : pascalCase (snakeCase name) = pascalCase name
  lower_pascal : (lowerText (pascalCase name)).toList = (lowerText name).toList.filter (· ≠ '_')

theorem onlyCaseChanges_of_isName {name : String} (h : isName name) : OnlyCaseChanges name := by
  have hplain : Plain name.toList := fun c hc => isNamePart_of_mem h hc
  have hsnake := snakeCase_snakeCase h
  refine ⟨?_, hsnake, ?_, pascalCase_eq_of_snakeCase_eq hsnake, ?_⟩
  · rw [lowerText, snakeCase, String.toList_ofList, String.toList_ofList]
    exact underscored_snakeChars hplain
  · rw [pascalCase, String.toList_ofList]
    exact underscore_not_mem_pascalChars hplain
  · rw [lowerText, lowerText, pascalCase, String.toList_ofList, String.toList_ofList,
      String.toList_ofList]
    exact lower_pascalChars hplain

end Naming

open Layout.Python Naming

/-- The class and the function for an operation have names that begin with a letter. -/
theorem OperationModel.startsWithLetter {m : OperationModel}
    (hm : m.name = nameOf m.kind m.operationName) :
    (className m).toList.head?.any isCapital ∧ (helperName m).toList.head?.any isSmall := by
  obtain ⟨c, -, hsmall, rest, hname⟩ := exists_nameOf_cons m.kind m.operationName
  obtain ⟨t, ht⟩ := exists_pascalChars_cons hsmall rest
  obtain ⟨t', ht'⟩ := exists_snakeChars_cons hsmall rest
  have hupper := toUpper_of_isSnake (c := c) (by simp [isSnake, hsmall])
  rw [if_pos hsmall] at hupper
  rw [className, helperName, pascalCase, snakeCase, String.toList_ofList, String.toList_ofList, hm,
    hname, ht, ht']
  exact ⟨hupper.1, hsmall⟩

namespace Generator

/-- Bringing a name into snake or Pascal form changes nothing but case and underscores. So the names
that are made from wrapper names, which begin with the kind of an operation, begin with a letter: a
capital that of a class, and a small letter that of a function. -/
theorem onlyCaseChanges_and_startsWithLetter :
    (∀ name, isName name → OnlyCaseChanges name) ∧
      ∀ (g : Generator) (output : Output) (log : List LogEntry), g.build = .ok (output, log) →
        ∀ m ∈ output.operations, m.name = OperationModel.nameOf m.kind m.operationName ∧
          (className m).toList.head?.any isCapital ∧ (helperName m).toList.head?.any isSmall := by
  refine ⟨fun name hname => onlyCaseChanges_of_isName hname, fun g output log hbuild m hm => ?_⟩
  have hname := name_eq_nameOf_of_build hbuild hm
  exact ⟨hname, OperationModel.startsWithLetter hname⟩

/-- A name of several words, and the wrappers of two queries. -/
theorem onlyCaseChanges_and_startsWithLetter_userRun :
    isName "getHTTPUser_v2" ∧ OnlyCaseChanges "getHTTPUser_v2" ∧
      ∃ output log, (userRun "getUser" "_users").build = .ok (output, log) ∧
        output.operations.map (·.name) = ["querygetUser", "query_users"] ∧
        ∀ m ∈ output.operations,
          (className m).toList.head?.any isCapital ∧ (helperName m).toList.head?.any isSmall := by
  have hname : isName "getHTTPUser_v2" := by decide
  obtain ⟨output, log, hbuild, hnames⟩ := exists_build_of_map
    (g := userRun "getUser" "_users") (fun o => o.operations.map (·.name))
    (show _ = some ["querygetUser", "query_users"] by decide +kernel)
  obtain ⟨hcase, hletter⟩ := onlyCaseChanges_and_startsWithLetter
  exact ⟨hname, hcase _ hname, output, log, hbuild, hnames,
    fun m hm => (hletter _ output log hbuild m hm).2⟩

end Generator

end OperationClasses
