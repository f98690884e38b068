import OperationClasses.Proofs.Payload.Uses

/-!
# Finding fragments without a bound

The rules by which the fragments of a text are found, and those of the reading that tells their
order, with no bound on the depth. A derivation from these rules is finite, so finding ends: it
does for all selections, also where fragments lead back to themselves through fields. What is
found are the fragments that can be reached, each once, in the order in which the reading meets
them first.
-/
namespace OperationClasses.Payload

open Syntax Expansion Selection

/-- Looks through selections one after another and adds what is new to the fragments found
before. A fragment is looked through where it is found. -/
inductive Finds (fragments : Fragments) :
    List Syntax.Selection → List String → List String → Prop where
  | nil {found : List String} : Finds fragments [] found found
  | leaf {alias? : Option String} {name : String} {args : List Argument} {ds : List Directive}
      {offset : ℕ} {rest : List Syntax.Selection} {found found' : List String} :
      Finds fragments rest found found' →
      Finds fragments (.field alias? name args ds none offset :: rest) found found'
  | field {alias? : Option String} {name : String} {args : List Argument} {ds : List Directive}
      {offset : ℕ} {inner rest : List Syntax.Selection} {found found' found'' : List String} :
      Finds fragments inner found found' → Finds fragments rest found' found'' →
      Finds fragments (.field alias? name args ds (some inner) offset :: rest) found found''
  | inline {condition? : Option String} {ds : List Directive}
      {inner rest : List Syntax.Selection} {found found' found'' : List String} :
      Finds fragments inner found found' → Finds fragments rest found' found'' →
      Finds fragments (.inline condition? ds inner :: rest) found found''
  | undefinedSpread {name : String} {ds : List Directive} {offset : ℕ}
      {rest : List Syntax.Selection} {found found' : List String} :
      fragments.find? name = none → Finds fragments rest found found' →
      Finds fragments (.spread name ds offset :: rest) found found'
  | again {name : String} {ds : List Directive} {offset : ℕ} {rest : List Syntax.Selection}
      {found found' : List String} :
      name ∈ found → Finds fragments rest found found' →
      Finds fragments (.spread name ds offset :: rest) found found'
  | spread {name : String} {ds : List Directive} {offset : ℕ} {f : Fragment}
      {rest : List Syntax.Selection} {found found' found'' : List String} :
      fragments.find? name = some f → name ∉ found →
      Finds fragments f.selections (found ++ [name]) found' →
      Finds fragments rest found' found'' →
      Finds fragments (.spread name ds offset :: rest) found found''

/-- Reads selections depth first, and the text of a fragment wherever it is spread, except inside
itself. Each defined fragment is named where it is opened. -/
inductive Reads (fragments : Fragments) :
    List String → List Syntax.Selection → List String → Prop where
  | nil {path : List String} : Reads fragments path [] []
  | leaf {path : List String} {alias? : Option String} {name : String} {args : List Argument}
      {ds : List Directive} {offset : ℕ} {rest : List Syntax.Selection} {names : List String} :
      Reads fragments path rest names →
      Reads fragments path (.field alias? name args ds none offset :: rest) names
  | field {path : List String} {alias? : Option String} {name : String} {args : List Argument}
      {ds : List Directive} {offset : ℕ} {inner rest : List Syntax.Selection}
      {names names' : List String} :
      Reads fragments path inner names → Reads fragments path rest names' →
      Reads fragments path (.field alias? name args ds (some inner) offset :: rest)
        (names ++ names')
  | inline {path : List String} {condition? : Option String} {ds : List Directive}
      {inner rest : List Syntax.Selection} {names names' : List String} :
      Reads fragments path inner names → Reads fragments path rest names' →
      Reads fragments path (.inline condition? ds inner :: rest) (names ++ names')
  | cut {path : List String} {name : String} {ds : List Directive} {offset : ℕ}
      {rest : List Syntax.Selection} {names : List String} :
      name ∈ path → Reads fragments path rest names →
      Reads fragments path (.spread name ds offset :: rest) names
  | undefinedSpread {path : List String} {name : String} {ds : List Directive} {offset : ℕ}
      {rest : List Syntax.Selection} {names : List String} :
      fragments.find? name = none → Reads fragments path rest names →
      Reads fragments path (.spread name ds offset :: rest) names
  | spread {path : List String} {name : String} {ds : List Directive} {offset : ℕ} {f : Fragment}
      {rest : List Syntax.Selection} {names names' : List String} :
      name ∉ path → fragments.find? name = some f →
      Reads fragments (name :: path) f.selections names → Reads fragments path rest names' →
      Reads fragments path (.spread name ds offset :: rest) (name :: names ++ names')

theorem Finds.unique {fragments : Fragments} {selections : List Syntax.Selection}
    {found found' found'' : List String} (h : Finds fragments selections found found')
    (h' : Finds fragments selections found found'') : found' = found'' := by
  induction h generalizing found'' with
  | nil => cases h'; rfl
  | leaf _ ih =>
    cases h' with
    | leaf h' => exact ih h'
  | field _ _ ihinner ih =>
    cases h' with
    | field hinner h' =>
      cases ihinner hinner
      exact ih h'
  | inline _ _ ihinner ih =>
    cases h' with
    | inline hinner h' =>
      cases ihinner hinner
      exact ih h'
  | undefinedSpread hf _ ih =>
    cases h' with
    | undefinedSpread _ h' => exact ih h'
    | again _ h' => exact ih h'
    | spread hf' => cases hf.symm.trans hf'
  | again hfound _ ih =>
    cases h' with
    | undefinedSpread _ h' => exact ih h'
    | again _ h' => exact ih h'
    | spread _ hnew => exact absurd hfound hnew
  | spread hf hnew _ _ ihinner ih =>
    cases h' with
    | undefinedSpread hf' => cases hf.symm.trans hf'
    | again hfound => exact absurd hfound hnew
    | spread hf' _ hinner h' =>
      cases hf.symm.trans hf'
      cases ihinner hinner
      exact ih h'

theorem Reads.unique {fragments : Fragments} {path : List String}
    {selections : List Syntax.Selection} {names names' : List String}
    (h : Reads fragments path selections names) (h' : Reads fragments path selections names') :
    names = names' := by
  induction h generalizing names' with
  | nil => cases h'; rfl
  | leaf _ ih =>
    cases h' with
    | leaf h' => exact ih h'
  | field _ _ ihinner ih =>
    cases h' with
    | field hinner h' => rw [ihinner hinner, ih h']
  | inline _ _ ihinner ih =>
    cases h' with
    | inline hinner h' => rw [ihinner hinner, ih h']
  | cut hpath _ ih =>
    cases h' with
    | cut _ h' => exact ih h'
    | undefinedSpread _ h' => exact ih h'
    | spread hnot => exact absurd hpath hnot
  | undefinedSpread hf _ ih =>
    cases h' with
    | cut _ h' => exact ih h'
    | undefinedSpread _ h' => exact ih h'
    | spread _ hf' => cases hf.symm.trans hf'
  | spread hnot hf _ _ ihinner ih =>
    cases h' with
    | cut hpath => exact absurd hpath hnot
    | undefinedSpread hf' => cases hf.symm.trans hf'
    | spread _ hf' hinner h' =>
      cases hf.symm.trans hf'
      rw [ihinner hinner, ih h']

/-- Looking through selections leaves room. -/
theorem room_reach {fragments : Fragments} {fuel : ℕ} {found : List String}
    (hroom : Room fragments.names fuel found.reverse) (selections : List Syntax.Selection) :
    Room fragments.names fuel (reach fragments fuel selections found).reverse := by
  have hafter := hroom.once openings_mem_names ((spreadNamesAll selections).map .enter) found
  change Room _ _ (once _ _ _ (walkOf found)).visited at hafter
  rwa [once_openings hroom] at hafter

theorem room_withSpread {fragments : Fragments} {fuel : ℕ} {found : List String}
    (hroom : Room fragments.names (fuel + 1) found.reverse) (name : String) :
    Room fragments.names (fuel + 1) (withSpread fragments fuel found name).reverse := by
  unfold withSpread
  split
  · exact hroom
  · next f hf =>
    split
    · exact hroom
    · next hnew =>
      have hinside : Room fragments.names fuel (found ++ [name]).reverse := by
        simpa using hroom.enter (Fragments.mem_names_of_find? hf) (by simpa using hnew)
      exact (room_reach hinside f.selections).succ

/-- Looking through a spread leaves it at what fits. -/
def KeepsFits (Fits : List String → Prop) (spread : String → List String → List String) : Prop :=
  ∀ name found, Fits found → Fits (spread name found)

/-- What has been found once a spread is passed goes on to what the rules find. -/
def FindsSpreads (fragments : Fragments) (Fits : List String → Prop)
    (spread : String → List String → List String) : Prop :=
  ∀ {name : String} {ds : List Directive} {offset : ℕ} {rest : List Syntax.Selection}
    {found found' : List String}, Fits found → Finds fragments rest (spread name found) found' →
    Finds fragments (.spread name ds offset :: rest) found found'

section

variable {fragments : Fragments} {spread : String → List String → List String}
  {Fits : List String → Prop}

mutual

theorem fits_walk (hfits : KeepsFits Fits spread)
    (s : Syntax.Selection) {found : List String} (h : Fits found) : Fits (walk spread s found) := by
  cases s with
  | field alias? name args ds inner? offset =>
    cases inner? with
    | none => simpa [walk] using h
    | some inner => simpa [walk] using fits_walkAll hfits inner h
  | inline condition? ds inner => simpa [walk] using fits_walkAll hfits inner h
  | spread name ds offset => simpa [walk] using hfits name found h

theorem fits_walkAll (hfits : KeepsFits Fits spread)
    (selections : List Syntax.Selection) {found : List String} (h : Fits found) :
    Fits (walkAll spread selections found) := by
  cases selections with
  | nil => simpa [walkAll] using h
  | cons s rest =>
    rw [walkAll]
    exact fits_walkAll hfits rest (fits_walk hfits s h)

end

mutual

theorem finds_walk (hfits : KeepsFits Fits spread) (hspread : FindsSpreads fragments Fits spread)
    (s : Syntax.Selection) {rest : List Syntax.Selection} {found found' : List String}
    (hfound : Fits found) (h : Finds fragments rest (walk spread s found) found') :
    Finds fragments (s :: rest) found found' := by
  cases s with
  | field alias? name args ds inner? offset =>
    cases inner? with
    | none => exact .leaf (by simpa [walk] using h)
    | some inner =>
      exact .field (finds_walkAll hfits hspread inner hfound) (by simpa [walk] using h)
  | inline condition? ds inner =>
    exact .inline (finds_walkAll hfits hspread inner hfound) (by simpa [walk] using h)
  | spread name ds offset => exact hspread hfound (by simpa [walk] using h)

theorem finds_walkAll (hfits : KeepsFits Fits spread) (hspread : FindsSpreads fragments Fits spread)
    (selections : List Syntax.Selection) {found : List String} (hfound : Fits found) :
    Finds fragments selections found (walkAll spread selections found) := by
  cases selections with
  | nil => simpa [walkAll] using Finds.nil
  | cons s rest =>
    rw [walkAll]
    exact finds_walk hfits hspread s hfound
      (finds_walkAll hfits hspread rest (fits_walk hfits s hfound))

end

end

theorem findsSpreads_withSpread {fragments : Fragments} {fuel : ℕ}
    (hreach : ∀ {found : List String}, Room fragments.names fuel found.reverse →
      ∀ selections, Finds fragments selections found (reach fragments fuel selections found)) :
    FindsSpreads fragments (fun found => Room fragments.names (fuel + 1) found.reverse)
      (fun name found => withSpread fragments fuel found name) := by
  intro name ds offset rest found found' hroom h
  simp only [withSpread] at h
  split at h
  · next hf => exact .undefinedSpread hf h
  · next f hf =>
    by_cases hfound : name ∈ found
    · exact .again hfound (by simpa [hfound] using h)
    · have hinside : Room fragments.names fuel (found ++ [name]).reverse := by
        simpa using hroom.enter (Fragments.mem_names_of_find? hf) (by simpa using hfound)
      exact .spread hf hfound (hreach hinside f.selections) (by simpa [hfound] using h)

/-- Where there is room for the fragments that can still be found, the bound does not show. -/
theorem finds_reach {fragments : Fragments} {fuel : ℕ} {found : List String}
    (hroom : Room fragments.names fuel found.reverse) (selections : List Syntax.Selection) :
    Finds fragments selections found (reach fragments fuel selections found) := by
  induction fuel generalizing found selections with
  | zero => exact absurd hroom.pos (by simp)
  | succ fuel ih =>
    change Finds fragments selections found
      (walkAll (fun name found => withSpread fragments fuel found name) selections found)
    have hfits : KeepsFits (fun found => Room fragments.names (fuel + 1) found.reverse)
        (fun name found => withSpread fragments fuel found name) :=
      fun name found h => room_withSpread h name
    exact finds_walkAll hfits (findsSpreads_withSpread ih) selections hroom

/-- The names that spreads expand to go before those that the rules read behind them. -/
def ReadsSpreads (fragments : Fragments) (path : List String) (expand : String → List String) :
    Prop :=
  ∀ {name : String} {ds : List Directive} {offset : ℕ} {rest : List Syntax.Selection}
    {names : List String},
    Reads fragments path rest names →
    Reads fragments path (.spread name ds offset :: rest) (expand name ++ names)

section

variable {fragments : Fragments} {path : List String} {expand : String → List String}

mutual

theorem reads_spreadNames (hexpand : ReadsSpreads fragments path expand)
    (s : Syntax.Selection) {rest : List Syntax.Selection} {names : List String}
    (h : Reads fragments path rest names) :
    Reads fragments path (s :: rest) ((spreadNames s).flatMap expand ++ names) := by
  cases s with
  | field alias? name args ds inner? offset =>
    cases inner? with
    | none => simpa [spreadNames] using Reads.leaf h
    | some inner => simpa [spreadNames] using Reads.field (reads_spreadNamesAll hexpand inner) h
  | inline condition? ds inner =>
    simpa [spreadNames] using Reads.inline (reads_spreadNamesAll hexpand inner) h
  | spread name ds offset => simpa [spreadNames] using hexpand h

theorem reads_spreadNamesAll (hexpand : ReadsSpreads fragments path expand)
    (selections : List Syntax.Selection) :
    Reads fragments path selections ((spreadNamesAll selections).flatMap expand) := by
  cases selections with
  | nil => simpa [spreadNamesAll] using Reads.nil
  | cons s rest =>
    rw [spreadNamesAll, List.flatMap_append]
    exact reads_spreadNames hexpand s (reads_spreadNamesAll hexpand rest)

end

end

theorem readsSpreads_along {fragments : Fragments} {fuel : ℕ} {path : List String}
    (hroom : Room fragments.names (fuel + 1) path)
    (halong : ∀ {path : List String}, Room fragments.names fuel path → ∀ selections,
      Reads fragments path selections
        (along (openings fragments) fuel path ((spreadNamesAll selections).map .enter))) :
    ReadsSpreads fragments path
      (fun name => along (openings fragments) (fuel + 1) path [.enter name]) := by
  intro name ds offset rest names h
  dsimp only
  by_cases hpath : name ∈ path
  · have hcut : Reads fragments path (.spread name ds offset :: rest) names := .cut hpath h
    simpa [along, hpath] using hcut
  · cases hf : fragments.find? name with
    | none =>
      have hundefined : Reads fragments path (.spread name ds offset :: rest) names :=
        .undefinedSpread hf h
      simpa [along, hpath, openings, hf] using hundefined
    | some f =>
      have hinside := hroom.enter (Fragments.mem_names_of_find? hf) hpath
      obtain ⟨k, rfl⟩ := Nat.exists_eq_add_one.mpr hinside.pos
      have hbody : along (openings fragments) (k + 1) (name :: path)
          (.say name :: (spreadNamesAll f.selections).map .enter) = name ::
            along (openings fragments) (k + 1) (name :: path)
              ((spreadNamesAll f.selections).map .enter) := by
        rw [along_cons]
        simp [along]
      rw [along_enter _ _ hpath (openings_of_find? hf), hbody]
      exact .spread hpath hf (halong hinside f.selections) h

theorem reads_along {fragments : Fragments} {fuel : ℕ} {path : List String}
    (hroom : Room fragments.names fuel path) (selections : List Syntax.Selection) :
    Reads fragments path selections
      (along (openings fragments) fuel path ((spreadNamesAll selections).map .enter)) := by
  induction fuel generalizing path selections with
  | zero => exact absurd hroom.pos (by simp)
  | succ fuel ih =>
    have hparts : along (openings fragments) (fuel + 1) path
        ((spreadNamesAll selections).map .enter) = (spreadNamesAll selections).flatMap
          fun name => along (openings fragments) (fuel + 1) path [.enter name] := by
      simp [along, List.flatMap_map]
    rw [hparts]
    exact reads_spreadNamesAll (readsSpreads_along hroom ih) selections

/-- Finding the fragments that selections use ends, whatever circles fragments form. It finds those
and only those that are defined and can be reached through spreads, each once, in the order in
which a depth-first reading meets them first. -/
theorem usedFragments_reached (fragments : Fragments) (selections : List Syntax.Selection) :
    Finds fragments selections [] (usedFragments fragments selections) ∧
      (∀ found, Finds fragments selections [] found →
        found = usedFragments fragments selections) ∧
      (usedFragments fragments selections).Nodup ∧
      (∀ name, name ∈ usedFragments fragments selections ↔ Uses fragments selections name) ∧
      ∃ names, Reads fragments [] selections names ∧
        (∀ names', Reads fragments [] selections names' → names' = names) ∧
        usedFragments fragments selections = names.eraseDups := by
  have hfinds : Finds fragments selections [] (usedFragments fragments selections) :=
    finds_reach (.initial _) selections
  have hreads : Reads fragments [] selections (readingOrder fragments selections) :=
    reads_along (.initial _) selections
  exact ⟨hfinds, fun found h => h.unique hfinds, nodup_usedFragments fragments selections,
    fun name => mem_usedFragments, readingOrder fragments selections, hreads,
    fun names' h => h.unique hreads, usedFragments_eq fragments selections⟩

end OperationClasses.Payload
