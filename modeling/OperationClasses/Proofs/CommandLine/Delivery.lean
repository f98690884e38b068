import OperationClasses.Proofs.Archive.Confinement
import OperationClasses.Proofs.CommandLine.Outcome

/-!
# Failures and the generated file

A text that cannot be made leaves the generated file alone: delivering it from the library changes
nothing at all, and a run of the program changes nothing but what it unpacks a schema to. A zip file
stays in its folder. A tape may reach the output before anything is generated, and then the output
is not as it was.
-/
namespace OperationClasses

section

variable {ε : Type} {make : String → Except ε String} {t : FileTree} {here : Place} {path : String}

theorem deliverMade_of_error {e : ε} (h : make (Path.name path) = .error e) :
    deliverMade make t here path = (t, .error (.generation e)) := by
  rw [deliverMade, h]

theorem deliverMade_eq_ok {t' : FileTree} {text : String}
    (h : deliverMade make t here path = (t', .ok text)) :
    make (Path.name path) = .ok text ∧ t'.Holds here path text.toUTF8 := by
  unfold deliverMade at h
  split at h
  · cases h
  · next made hmade =>
    split at h
    · cases h
    · next hwrite =>
      cases h
      exact ⟨hmade, FileTree.holds_of_writeText hwrite⟩

end

namespace CommandLine

/-- Nothing is left open in what a run reads. -/
theorem Reads.unique {t : FileTree} {s : Surroundings} {o : Options} {path : String}
    {g g' : Generator} {template? template?' : Option String} (h : Reads t s o path g template?)
    (h' : Reads t s o path g' template?') : g = g' ∧ template? = template?' := by
  obtain ⟨schema, documents, config, target, hooks⟩ := g
  obtain ⟨schema', documents', config', target', hooks'⟩ := g'
  obtain rfl : schema = schema' := Except.ok.inj (h.schema.symm.trans h'.schema)
  obtain rfl : documents = documents' := Except.ok.inj (h.documents.symm.trans h'.documents)
  obtain rfl : config = config' := Except.ok.inj (h.config.symm.trans h'.config)
  obtain rfl : target = target' := Option.some.inj (h.target.symm.trans h'.target)
  obtain rfl : hooks = hooks' := h.hooks.trans h'.hooks.symm
  exact ⟨rfl, Except.ok.inj (h.template.symm.trans h'.template)⟩

theorem remaining_without (temporary : Place) (t : Transcript) :
    (remaining temporary t).without temporary = t.files.without temporary := by
  rw [remaining]
  split
  · simp [FileTree.without]
  · rfl

/-- What is promised of a run that generates. -/
structure KeepsPromise (s : Surroundings) (o : Options) : Prop where
  /-- When no text is made, it fails, and the output and the folders above it are as before. -/
  spares : (∀ text, ¬ Makes s o text) → (generateOutcome s o).exitCode = 1 ∧
    FileTree.SameUpTo (outputPlace s o) s.tree (generateOutcome s o).files
  /-- When it ends well, a text was made and the output's path led to it, before the folder with an
  unpacked schema was removed. -/
  delivers : (generateOutcome s o).exitCode = 0 → ∃ text t, Makes s o text ∧
    t.Holds [] (outputPlace s o).text text.toUTF8 ∧
    (generateOutcome s o).files =
      if (sourced s o).2.hasUnpacked then t.without s.temporary else t
  /-- The library delivers the same text for the same input. -/
  agrees : ∀ text path g template?, Makes s o text → (sourced s o).1 = .ok path →
    Reads (sourced s o).2.files s o path g template? →
    ∀ t here output t' text', deliverMade (fun _ => g.generateWith template?) t here output =
      (t', .ok text') → text' = text

/-- The promise hangs on what unpacking the schema does to the output, when no text is made. -/
theorem keepsPromise_iff_sameUpTo {s : Surroundings} {o : Options} :
    KeepsPromise s o ↔ ((∀ text, ¬ Makes s o text) →
      FileTree.SameUpTo (outputPlace s o) s.tree (remaining s.temporary (sourced s o).2)) := by
  constructor
  · intro h hnot
    rw [← (generateOutcome_of_not_makes hnot).2]
    exact (h.spares hnot).2
  · intro h
    refine ⟨fun hnot => ?_, exists_text_of_exitCode_eq_zero, ?_⟩
    · obtain ⟨hexit, hfiles⟩ := generateOutcome_of_not_makes hnot
      exact ⟨hexit, hfiles ▸ h hnot⟩
    · rintro text path g template? ⟨path', g', template?', hpath', hreads', hmade⟩ hpath hreads
        t here output t' text' hdeliver
      obtain rfl : path = path' := Except.ok.inj (hpath.symm.trans hpath')
      obtain ⟨rfl, rfl⟩ := hreads.unique hreads'
      exact Except.ok.inj ((deliverMade_eq_ok hdeliver).1.symm.trans hmade)

theorem remaining_of_not_packed {s : Surroundings} {o : Options} (h : isPacked s o = false) :
    remaining s.temporary (sourced s o).2 = s.tree := by
  rw [sourced_of_not_packed h]
  rfl

/-- What a schema that is no tape is unpacked to does not reach the output. -/
theorem sameUpTo_of_not_tape {s : Surroundings} {o : Options} (hfresh : s.tree.IsFresh s.temporary)
    (hout : ¬ s.temporary <+: outputPlace s o)
    (hformat : Archive.format? (Archive.nameOf (schemaPlace s o).text) ≠ some .tarGzip) :
    FileTree.SameUpTo (outputPlace s o) s.tree (remaining s.temporary (sourced s o).2) := by
  cases hpacked : isPacked s o with
  | false =>
    rw [remaining_of_not_packed hpacked]
    exact .refl _ _
  | true =>
    refine hfresh.sameUpTo ?_ hout
    rw [remaining_without, sourced_files_of_packed hpacked]
    exact Archive.without_unpack hfresh hformat

/-- The promise is kept exactly when unpacking the schema does not reach the output of a run that
makes no text. It is kept, and nothing changes at all, when the schema is not packed; and it is kept
when the schema is packed as a zip file and the folder for it is new and apart from the output. What
is made from a file's base name by the library is delivered in the same way, with any hooks. -/
theorem keepsPromise_iff (s : Surroundings) (o : Options) :
    (KeepsPromise s o ↔ ((∀ text, ¬ Makes s o text) →
      FileTree.SameUpTo (outputPlace s o) s.tree (remaining s.temporary (sourced s o).2))) ∧
    (isPacked s o = false → KeepsPromise s o ∧
      ((∀ text, ¬ Makes s o text) → (generateOutcome s o).files = s.tree)) ∧
    (s.tree.IsFresh s.temporary → ¬ s.temporary <+: outputPlace s o →
      Archive.format? (Archive.nameOf (schemaPlace s o).text) ≠ some .tarGzip →
      KeepsPromise s o) ∧
    (∀ (ε : Type) (make : String → Except ε String) (t : FileTree) (here : Place) (path : String),
      (∀ e, make (Path.name path) = .error e →
        deliverMade make t here path = (t, .error (.generation e))) ∧
      ∀ t' text, deliverMade make t here path = (t', .ok text) →
        make (Path.name path) = .ok text ∧ t'.Holds here path text.toUTF8) := by
  refine ⟨keepsPromise_iff_sameUpTo, fun hpacked => ⟨?_, fun hnot => ?_⟩,
    fun hfresh hout hformat => ?_, fun ε make t here path =>
      ⟨fun e => deliverMade_of_error, fun t' text => deliverMade_eq_ok⟩⟩
  · refine keepsPromise_iff_sameUpTo.mpr fun _ => ?_
    rw [remaining_of_not_packed hpacked]
    exact .refl _ _
  · rw [(generateOutcome_of_not_makes hnot).2, remaining_of_not_packed hpacked]
  · exact keepsPromise_iff_sameUpTo.mpr fun _ => sameUpTo_of_not_tape hfresh hout hformat

/-- Surroundings with a schema in a zip file. -/
def zipSurroundings : Surroundings where
  files := ⟨[(["home"], .folder), (["home", "schema.zip"], .file .empty), (["tmp"], .folder)], []⟩
  here := ["home"]
  temporary := ["tmp", "schema"]

/-- A request that names a schema in a zip file. -/
def zipRequest : Options :=
  ⟨"schema.zip", "operations", "generated/operations.py", none, none, none, none, none, false⟩

theorem isFresh_temporary : zipSurroundings.tree.IsFresh zipSurroundings.temporary where
  ne_root := by decide
  names := by
    have hnames : ∀ name ∈ ["tmp", "schema"],
        name ≠ "" ∧ name ≠ "." ∧ name ≠ ".." ∧ '/' ∉ name.toList := by decide
    exact fun name h => ⟨(hnames name h).1, (hnames name h).2.1, (hnames name h).2.2.1,
      (hnames name h).2.2.2⟩
  parent := by decide
  unlinked := by
    intro q path hq
    have hway : ∀ n ≤ 2,
        zipSurroundings.tree.entry? (zipSurroundings.temporary.take n) = none ∨
          zipSurroundings.tree.entry? (zipSurroundings.temporary.take n) = some .folder := by
      decide
    rw [List.prefix_iff_eq_take.mp hq]
    obtain h | h := hway q.length hq.length_le <;> simp [h]
  free := by decide

theorem keepsPromise_zipRequest :
    isPacked zipSurroundings zipRequest = true ∧ KeepsPromise zipSurroundings zipRequest := by
  have hout : outputPlace zipSurroundings zipRequest = ["home", "generated", "operations.py"] := by
    decide
  have hformat : Archive.format? (Archive.nameOf (schemaPlace zipSurroundings zipRequest).text) =
      some .zip := by decide +kernel
  refine ⟨by decide +kernel,
    (keepsPromise_iff zipSurroundings zipRequest).2.2.1 isFresh_temporary ?_ ?_⟩
  · rw [hout]
    decide
  · rw [hformat]
    simp

end CommandLine

end OperationClasses
