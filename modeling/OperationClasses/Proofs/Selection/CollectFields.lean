import OperationClasses.Proofs.Selection.Termination
import OperationClasses.Selection.Typed

/-!
# Collecting fields with one visited set

The fields of a level can also be collected in one run over all its selection sets that expands
each fragment at its first spread only. Expanding along paths opens a fragment more often and
lists selection sets repeatedly, but the typed fields are the same at every depth.
-/
namespace OperationClasses.Selection

open Syntax Expansion

/-- The fragments expanded so far at a level, and the groups collected there. -/
structure Collected where
  visited : List String
  groups : List Group

mutual

/-- Collects a selection, given what to do at a spread. -/
def collectOne (spread : SpreadNode → Collected → Collected) (condition? : Option String) :
    Syntax.Selection → Collected → Collected
  | .field alias? name args ds inner? offset, c =>
    { c with groups := addField ⟨alias?, name, args, ds, inner?, offset⟩ condition? c.groups }
  | .inline inner? _ selections, c => collectAll spread (inner?.or condition?) selections c
  | .spread name ds offset, c => spread ⟨name, ds, offset⟩ c

def collectAll (spread : SpreadNode → Collected → Collected) (condition? : Option String) :
    List Syntax.Selection → Collected → Collected
  | [], c => c
  | s :: rest, c => collectAll spread condition? rest (collectOne spread condition? s c)

end

/-- A walk through occurrences, seen as what it has collected. -/
def collectedOf (w : Walk Occurrence) : Collected := ⟨w.visited, group w.said⟩

theorem collectedOf_say (w : Walk Occurrence) (o : Occurrence) :
    collectedOf { w with said := w.said ++ [o] } =
      { collectedOf w with groups := addOccurrence (collectedOf w).groups o } := by
  simp [collectedOf, group, List.foldl_append]

/-- A walk's step, given what it does at a body. -/
def advance (enter : String → Walk Occurrence → Walk Occurrence) (w : Walk Occurrence) :
    Step Occurrence → Walk Occurrence
  | .say o => { w with said := w.said ++ [o] }
  | .enter name => enter name w

mutual

theorem collectOne_collectedOf {fragments : Fragments}
    {spread : SpreadNode → Collected → Collected}
    {enter : String → Walk Occurrence → Walk Occurrence}
    (hdefined : ∀ s f w, fragments.find? s.name = some f →
      spread s (collectedOf w) = collectedOf (enter s.name w))
    (hundefined : ∀ s c, fragments.find? s.name = none →
      spread s c = { c with groups := addSpread s c.groups })
    (condition? : Option String) (s : Syntax.Selection) (w : Walk Occurrence) :
    collectOne spread condition? s (collectedOf w) =
      collectedOf ((steps fragments condition? s).foldl (advance enter) w) := by
  cases s with
  | field => simp [collectOne, steps, advance, collectedOf_say, addOccurrence]
  | inline inner? ds selections =>
    simpa [collectOne, steps] using
      collectAll_collectedOf hdefined hundefined (inner?.or condition?) selections w
  | spread name ds offset =>
    cases hf : fragments.find? name with
    | none =>
      simp [collectOne, steps, hf, advance, collectedOf_say, hundefined ⟨name, ds, offset⟩ _ hf,
        addOccurrence]
    | some f => simp [collectOne, steps, hf, advance, hdefined ⟨name, ds, offset⟩ f w hf]

theorem collectAll_collectedOf {fragments : Fragments}
    {spread : SpreadNode → Collected → Collected}
    {enter : String → Walk Occurrence → Walk Occurrence}
    (hdefined : ∀ s f w, fragments.find? s.name = some f →
      spread s (collectedOf w) = collectedOf (enter s.name w))
    (hundefined : ∀ s c, fragments.find? s.name = none →
      spread s c = { c with groups := addSpread s c.groups })
    (condition? : Option String) (selections : List Syntax.Selection) (w : Walk Occurrence) :
    collectAll spread condition? selections (collectedOf w) =
      collectedOf ((stepsAll fragments condition? selections).foldl (advance enter) w) := by
  cases selections with
  | nil => simp [collectAll, stepsAll]
  | cons s rest =>
    rw [collectAll, stepsAll, List.foldl_append,
      collectOne_collectedOf hdefined hundefined condition? s w]
    exact collectAll_collectedOf hdefined hundefined condition? rest _

end

theorem annotateAll_eq_map (s : Schema) (parent? : Option String) (ms : List Merged) :
    annotateAll s parent? ms = ms.map (annotate s parent?) := by
  induction ms with
  | nil => simp [annotateAll]
  | cons m ms ih => simp [annotateAll, ih]

/-- A field under its own name. -/
def plainField (name : String) (inner? : Option (List Syntax.Selection)) : Syntax.Selection :=
  .field none name [] [] inner? 0

/-- A fragment without directives. -/
def plainFragment (name condition : String) (selections : List Syntax.Selection) : Fragment :=
  ⟨none, name, condition, [], selections, none⟩

/-- `A` and `B` spread each other; `A` opens `C` in the selection set of a field. -/
def circle : Fragments :=
  [plainFragment "A" "T" [.spread "B" [] 0, plainField "x" (some [.spread "C" [] 0])],
    plainFragment "B" "T" [plainField "y" none, .spread "A" [] 0, .spread "Missing" [] 0],
    plainFragment "C" "U" [plainField "z" none]]

/-- Both fragments of the circle, one of them twice. -/
def circleSpreads : List Syntax.Selection :=
  [.spread "A" [] 0, .spread "B" [] 0, .spread "A" [] 0]

theorem noFieldCycle_circle : NoFieldCycle circle circleSpreads := by
  intro name f via _ hf hbelow
  have hmem := Fragments.find?_mem hf
  have hname := Fragments.find?_name hf
  simp only [circle, plainFragment, List.mem_cons, List.not_mem_nil, or_false] at hmem
  rcases hmem with rfl | rfl | rfl
  · obtain rfl : via = "C" := by
      simpa [spreadNamesBelowAll, spreadNamesBelow, spreadNamesAll, spreadNames, plainField]
        using hbelow.mem
    obtain rfl : "A" = name := hname
    refine ⟨by decide, fun g hg hmeets => ?_⟩
    obtain rfl : plainFragment "C" "U" [plainField "z" none] = g := Option.some.inj hg
    cases hmeets with
    | here hs => simpa [spreadNamesAll, spreadNames, plainFragment, plainField] using hs.mem
    | inside hs => simpa [spreadNamesAll, spreadNames, plainFragment, plainField] using hs.mem
  · simpa [spreadNamesBelowAll, spreadNamesBelow, plainField] using hbelow.mem
  · simpa [spreadNamesBelowAll, spreadNamesBelow, plainField] using hbelow.mem

end OperationClasses.Selection
