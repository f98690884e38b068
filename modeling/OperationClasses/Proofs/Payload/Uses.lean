import Mathlib.Data.List.Nodup
import OperationClasses.Payload
import OperationClasses.Proofs.Selection.Expansion
import OperationClasses.Proofs.Selection.Reach

/-!
# Fragments in the order of first use

A text that is sent names the fragments that its operation uses. They are the first occurrences
in a depth-first reading which opens a fragment wherever it is spread, except inside itself.
-/
namespace OperationClasses.Payload

open Syntax Expansion Selection

/-- A fragment names itself where it is opened, before the spreads in its text. -/
def openings (fragments : Fragments) : Bodies String := fun name =>
  (fragments.find? name).map fun f => .say name :: (spreadNamesAll f.selections).map .enter

/-- The fragments that are opened when selections are read depth first. -/
def readingOrder (fragments : Fragments) (selections : List Syntax.Selection) : List String :=
  along (openings fragments) (fragments.names.length + 1) []
    ((spreadNamesAll selections).map .enter)

mutual

theorem walk_eq_foldl (spread : String → List String → List String) (s : Syntax.Selection)
    (found : List String) :
    walk spread s found = (spreadNames s).foldl (fun found name => spread name found) found := by
  cases s with
  | field alias? name args ds inner? =>
    cases inner? with
    | none => simp [walk, spreadNames]
    | some inner => simpa [walk, spreadNames] using walkAll_eq_foldl spread inner found
  | inline condition? ds inner => simpa [walk, spreadNames] using walkAll_eq_foldl spread inner found
  | spread name ds => simp [walk, spreadNames]

theorem walkAll_eq_foldl (spread : String → List String → List String)
    (selections : List Syntax.Selection) (found : List String) :
    walkAll spread selections found =
      (spreadNamesAll selections).foldl (fun found name => spread name found) found := by
  cases selections with
  | nil => simp [walkAll, spreadNamesAll]
  | cons s rest =>
    rw [walkAll, spreadNamesAll, List.foldl_append, walk_eq_foldl spread s found]
    exact walkAll_eq_foldl spread rest _

end

theorem openings_of_find? {fragments : Fragments} {name : String} {f : Fragment}
    (h : fragments.find? name = some f) : openings fragments name =
      some (.say name :: (spreadNamesAll f.selections).map .enter) := by
  simp [openings, h]

theorem openings_mem_names {fragments : Fragments} (name : String) (body : List (Step String))
    (h : openings fragments name = some body) : name ∈ fragments.names := by
  obtain ⟨f, hf, _⟩ := Option.map_eq_some_iff.mp h
  exact Fragments.mem_names_of_find? hf

/-- The fragments that were found, with those that a spread adds. -/
def withSpread (fragments : Fragments) (fuel : ℕ) (found : List String) (name : String) :
    List String :=
  match fragments.find? name with
  | none => found
  | some f =>
    if found.contains name then found else reach fragments fuel f.selections (found ++ [name])

theorem reach_succ (fragments : Fragments) (fuel : ℕ) (selections : List Syntax.Selection)
    (found : List String) : reach fragments (fuel + 1) selections found =
      (spreadNamesAll selections).foldl (withSpread fragments fuel) found := by
  rw [reach, walkAll_eq_foldl]
  rfl

/-- The bodies that were opened are the fragments that were found, the last one first. -/
def walkOf (found : List String) : Walk String := ⟨found.reverse, found⟩

/-- Collecting fragments is the expansion that opens each of them once. -/
theorem once_openings {fragments : Fragments} {fuel : ℕ} {found : List String}
    (hroom : Room fragments.names fuel found.reverse) (selections : List Syntax.Selection) :
    once (openings fragments) fuel ((spreadNamesAll selections).map .enter) (walkOf found) =
      walkOf (reach fragments fuel selections found) := by
  induction fuel generalizing found selections with
  | zero => exact absurd hroom.pos (by simp)
  | succ fuel ih =>
    have hspread : ∀ name found, Room fragments.names (fuel + 1) found.reverse →
        once (openings fragments) (fuel + 1) [.enter name] (walkOf found) =
          walkOf (withSpread fragments fuel found name) := by
      intro name found hroom
      cases hf : fragments.find? name with
      | none => simp [once, openings, withSpread, hf, walkOf]
      | some f =>
        by_cases hfound : name ∈ found
        · simp [once, withSpread, hf, hfound, walkOf]
        · have hbody := openings_of_find? hf
          have hnew : name ∉ (walkOf found).visited := by simpa [walkOf] using hfound
          have hinside : Room fragments.names fuel (found ++ [name]).reverse := by
            simpa using hroom.enter (Fragments.mem_names_of_find? hf) hnew
          have hsay : once (openings fragments) fuel [.say name]
              { walkOf found with visited := name :: found.reverse } = walkOf (found ++ [name]) := by
            obtain ⟨k, rfl⟩ := Nat.exists_eq_add_one.mpr hinside.pos
            simp [once, walkOf]
          have hwith : withSpread fragments fuel found name =
              reach fragments fuel f.selections (found ++ [name]) := by
            simp [withSpread, hf, hfound]
          rw [once_enter _ _ hnew hbody, once_cons, hwith, ← ih hinside]
          exact congrArg _ hsay
    rw [reach_succ]
    induction spreadNamesAll selections generalizing found with
    | nil => simp
    | cons name names ihn =>
      have hstep := hspread name found hroom
      have hroom' :
          Room fragments.names (fuel + 1) (withSpread fragments fuel found name).reverse := by
        have hafter := hroom.once openings_mem_names [.enter name] found
        change Room _ _ (once _ _ _ (walkOf found)).visited at hafter
        rwa [hstep] at hafter
      rw [List.map_cons, once_cons, List.foldl_cons, hstep]
      exact ihn hroom'

/-- The fragments of a sent text are the first occurrences in the depth-first reading. -/
theorem usedFragments_eq (fragments : Fragments) (selections : List Syntax.Selection) :
    usedFragments fragments selections = (readingOrder fragments selections).eraseDups := by
  have hsettled : Settled (openings fragments) fragments.names [] (walkOf []) :=
    ⟨by simp, by simp [walkOf], by simp [walkOf], by simp [walkOf]⟩
  have hwalk := once_advance openings_mem_names (.initial _) (.initial _) hsettled
    ((spreadNamesAll selections).map .enter)
  have hroom : Room fragments.names (fragments.names.length + 1) ([] : List String).reverse :=
    .initial _
  rw [once_openings hroom] at hwalk
  change Advance _ _ _ _ (walkOf (usedFragments fragments selections)) _ _ at hwalk
  obtain ⟨new, hnew, hthin⟩ := hwalk.thinned
  obtain rfl : new = usedFragments fragments selections := by simpa [walkOf] using hnew.symm
  have hnodup : (usedFragments fragments selections).Nodup := by
    exact List.nodup_reverse.mp hwalk.settled.nodup
  rw [← eraseDups_of_nodup hnodup]
  exact hthin.eraseDups_eq.symm

theorem nodup_usedFragments (fragments : Fragments) (selections : List Syntax.Selection) :
    (usedFragments fragments selections).Nodup := by
  rw [usedFragments_eq]
  exact nodup_eraseDups _

theorem uses_of_leadsTo {fragments : Fragments} {text : List (Step String)} {name : String}
    (h : LeadsTo (openings fragments) text name) (via? : Option String)
    (selections : List Syntax.Selection)
    (htext : text = via?.toList.map .say ++ (spreadNamesAll selections).map .enter) :
    via? = some name ∨ Uses fragments selections name := by
  induction h generalizing via? selections with
  | here hmem =>
    rw [htext] at hmem
    exact .inl (by simpa using hmem)
  | @inside _ body via name hmem hbody _ ih =>
    rw [htext] at hmem
    have hspread : Spreads selections via := spreads_of_mem (by simpa using hmem)
    obtain ⟨f, hf, rfl⟩ := Option.map_eq_some_iff.mp hbody
    rcases ih (some via) f.selections rfl with hvia | huses
    · cases hvia
      exact .inr ⟨.here hspread, by simp [hf]⟩
    · exact .inr ⟨.inside hspread hf huses.1, huses.2⟩

theorem leadsTo_of_meets {fragments : Fragments} {selections : List Syntax.Selection}
    {name : String} (h : Meets fragments selections name) {g : Fragment}
    (hg : fragments.find? name = some g) :
    LeadsTo (openings fragments) ((spreadNamesAll selections).map .enter) name := by
  induction h with
  | here hspread =>
    have hmem : Step.enter _ ∈ (spreadNamesAll _).map (Step.enter : String → Step String) :=
      List.mem_map_of_mem hspread.mem
    exact .inside hmem (openings_of_find? hg) (.here (by simp))
  | inside hspread hf _ ih =>
    have hmem : Step.enter _ ∈ (spreadNamesAll _).map (Step.enter : String → Step String) :=
      List.mem_map_of_mem hspread.mem
    exact .inside hmem (openings_of_find? hf) ((ih hg).mono (List.subset_cons_self _ _))

/-- A sent text has the fragments that its operation uses and no others. -/
theorem mem_usedFragments {fragments : Fragments} {selections : List Syntax.Selection}
    {name : String} :
    name ∈ usedFragments fragments selections ↔ Uses fragments selections name := by
  rw [usedFragments_eq, List.mem_eraseDups, readingOrder, mem_along_iff openings_mem_names]
  constructor
  · intro h
    exact (uses_of_leadsTo h none selections (by simp)).resolve_left (by simp)
  · rintro ⟨hmeets, hdefined⟩
    obtain ⟨g, hg⟩ := Option.isSome_iff_exists.mp hdefined
    exact leadsTo_of_meets hmeets hg

end OperationClasses.Payload
