import OperationClasses.Proofs.Archive.Recognition
import OperationClasses.Proofs.CommandLine.Outcome

/-!
# Schemas taken for archives

A run that takes its schema for an archive tries to unpack it, and breaks off when the name of the
file does not say how. Nothing else makes a run break off for that reason, so the schemas that are
rejected are those whose names only look like the names of archives.
-/
namespace OperationClasses

namespace Archive

/-- Once it is known how to unpack an archive, only what it holds can stand in the way. -/
theorem exists_unpack_eq_mapError (t : FileTree) (here folder : Place) {path : String}
    {format : Format} (h : format? (nameOf path) = some format) :
    ∃ members : Except MemberFault Unit,
      (unpack t here path folder).1 = members.mapError .member := by
  unfold unpack
  rw [h]
  dsimp only
  split
  · next fault _ => exact ⟨.error (.file fault), rfl⟩
  · exact ⟨_, rfl⟩

theorem unpack_eq_unsupported_iff {t : FileTree} {here folder : Place} {path suffix : String} :
    (unpack t here path folder).1 = .error (.unsupported suffix) ↔
      format? (nameOf path) = none ∧ Path.suffix (nameOf path) = suffix := by
  cases h : format? (nameOf path) with
  | none =>
    unfold unpack
    simp [h]
  | some format =>
    obtain ⟨members, hmembers⟩ := exists_unpack_eq_mapError t here folder h
    simp [hmembers, mapError_eq_error]

end Archive

namespace CommandLine

/-- A run that breaks off because the name of its schema does not say how to unpack it. -/
def RejectsSchema (s : Surroundings) (o : Options) : Prop :=
  ∃ suffix, (generateOutcome s o).failure? = some (.archive (.unsupported suffix))

section

variable {s : Surroundings} {o : Options} {fault : Archive.Fault}

/-- Making the text of what was read has nothing to do with archives. -/
theorem textOf_ne_archive {t : FileTree} {schemaPath : String} :
    textOf t s o schemaPath ≠ .error (.archive fault) := by
  intro h
  simp [textOf, bind_eq_error, mapError_eq_error, pure, Except.pure] at h

/-- A run breaks off for the reason for which its session does, unless the folder of an archive
cannot be removed. -/
theorem failure?_generateOutcome {result : Except Failure Unit} {t : Transcript}
    (h : (generateFile s o).run.run { files := s.tree } = (result, t)) :
    (generateOutcome s o).failure? =
      ((if t.hasUnpacked then t.files.removalFault? s.temporary else none).map Failure.file).or
        (faultOf result) := by
  simp only [generateOutcome, h, Outcome.cleared]
  cases t.hasUnpacked <;> cases result <;> cases t.files.removalFault? s.temporary <;> rfl

/-- Writing the text has nothing to do with archives either. -/
theorem sourced_of_generateFile {t : Transcript}
    (h : (generateFile s o).run.run { files := s.tree } = (.error (.archive fault), t)) :
    (sourced s o).1 = .error (.archive fault) := by
  obtain ⟨lines, hrun⟩ := exists_run_generateText s o
  cases hresult : (sourced s o).1 >>= fun path => textOf (sourced s o).2.files s o path with
  | ok p =>
    rw [hresult] at hrun
    obtain ⟨fault', hfault⟩ | ⟨files, lines, -, hfile⟩ := run_generateFile hrun
    · rw [h] at hfault
      cases hfault
    · rw [h] at hfile
      cases hfile
  | error failure =>
    rw [hresult] at hrun
    rw [run_generateFile_of_error hrun] at h
    cases h
    obtain hsource | ⟨path, -, htext⟩ := bind_eq_error.mp hresult
    · exact hsource
    · exact absurd htext textOf_ne_archive

theorem hasUnpacked_of_error {failure : Failure} (h : (sourced s o).1 = .error failure) :
    (sourced s o).2.hasUnpacked = false := by
  cases hpacked : isPacked s o with
  | false => rw [sourced_of_not_packed hpacked]
  | true =>
    obtain ⟨lines, leftovers, hsource⟩ := sourced_of_packed hpacked
    rw [hsource] at h ⊢
    generalize Archive.unpack s.tree [] (schemaPlace s o).text s.temporary = unpacked at h ⊢
    rcases unpacked with ⟨_ | _, _⟩
    · rfl
    · cases h

/-- A run breaks off because of an archive exactly when it cannot unpack its schema. -/
theorem failure?_eq_archive_iff :
    (generateOutcome s o).failure? = some (.archive fault) ↔
      (sourced s o).1 = .error (.archive fault) := by
  constructor
  · intro h
    rcases hfile : (generateFile s o).run.run { files := s.tree } with ⟨result, t⟩
    rw [failure?_generateOutcome hfile] at h
    obtain hremoval | ⟨-, hresult⟩ := Option.or_eq_some_iff.mp h
    · simp at hremoval
    · rw [faultOf_eq_some.mp hresult] at hfile
      exact sourced_of_generateFile hfile
  · intro h
    obtain ⟨lines, hrun⟩ := exists_run_generateText s o
    rw [h] at hrun
    rw [failure?_generateOutcome (run_generateFile_of_error hrun)]
    simp [hasUnpacked_of_error h, faultOf]

theorem sourced_eq_archive_iff :
    (sourced s o).1 = .error (.archive fault) ↔ isPacked s o = true ∧
      (Archive.unpack s.tree [] (schemaPlace s o).text s.temporary).1 = .error fault := by
  cases hpacked : isPacked s o with
  | false => simp [sourced_of_not_packed hpacked]
  | true =>
    obtain ⟨lines, leftovers, hsource⟩ := sourced_of_packed hpacked
    rw [hsource]
    generalize Archive.unpack s.tree [] (schemaPlace s o).text s.temporary = unpacked
    rcases unpacked with ⟨_ | _, _⟩ <;> simp

/-- The schemas that are rejected are the files on whose names the two tests differ. -/
theorem rejectsSchema_iff (hhere : ∀ name ∈ s.here, IsName name) :
    RejectsSchema s o ↔ s.tree.isFile (schemaPlace s o) = true ∧
      ¬ Archive.TestsAgree (schemaPlace s o).name := by
  have hname : Archive.nameOf (schemaPlace s o).text = (schemaPlace s o).name :=
    Archive.nameOf_text (FileTree.isName_of_mem_resolve hhere)
  simp only [RejectsSchema, failure?_eq_archive_iff, sourced_eq_archive_iff,
    Archive.unpack_eq_unsupported_iff, hname]
  rw [Archive.testsAgree_iff, ← Archive.isArchiveName_iff, ← Archive.isSome_format?_iff]
  simp [isPacked, and_assoc]

end

/-- The two tests agree on a name unless it only looks like that of an archive: the letters of its
ending are not all small, or it is the ending of a zip file and nothing else. A run rejects a schema
of this name exactly when it is a file and the tests differ. -/
theorem testsAgree_and_rejectsSchema_iff (name : String) :
    (Archive.TestsAgree name ↔ (Archive.LooksPacked name → Archive.IsUnpackable name)) ∧
    ∀ s o, (∀ part ∈ s.here, IsName part) → (schemaPlace s o).name = name →
      (RejectsSchema s o ↔
        s.tree.isFile (schemaPlace s o) = true ∧ ¬ Archive.TestsAgree name) := by
  refine ⟨Archive.testsAgree_iff, ?_⟩
  rintro s o hhere rfl
  exact rejectsSchema_iff hhere

/-- Surroundings with archives of both kinds, one of them named in capital letters. -/
def archiveSurroundings : Surroundings where
  files := ⟨[(["home"], .folder), (["home", "schema.tar.gz"], .file .empty),
    (["home", "SCHEMA.ZIP"], .file .empty), (["tmp"], .folder)], []⟩
  here := ["home"]
  temporary := ["tmp", "schema"]

/-- A request for what is generated from a schema. -/
def schemaRequest (schema : String) : Options :=
  ⟨schema, "operations", "operations.py", none, none, none, none, none, false⟩

theorem not_testsAgree_capitals :
    ¬ Archive.TestsAgree "SCHEMA.ZIP" ∧
    (generateOutcome archiveSurroundings (schemaRequest "SCHEMA.ZIP")).failure?.map (·.message) =
      some "Unsupported archive format: .ZIP" := by
  refine ⟨by decide +kernel, by decide +kernel⟩

theorem rejectsSchema_capitals :
    ¬ RejectsSchema archiveSurroundings (schemaRequest "schema.tar.gz") ∧
      RejectsSchema archiveSurroundings (schemaRequest "SCHEMA.ZIP") := by
  have hnames : ∀ name ∈ archiveSurroundings.here, IsName name := by
    simp only [archiveSurroundings, List.mem_singleton, forall_eq]
    exact ⟨by decide, by decide, by decide, by decide⟩
  have hrejects := fun name => (testsAgree_and_rejectsSchema_iff name).2 archiveSurroundings
  rw [hrejects "schema.tar.gz" _ hnames (by decide), hrejects "SCHEMA.ZIP" _ hnames (by decide)]
  decide +kernel

end CommandLine

end OperationClasses
