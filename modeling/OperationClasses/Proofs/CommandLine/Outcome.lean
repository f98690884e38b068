import OperationClasses.Proofs.CommandLine.Session
import OperationClasses.Proofs.Files.Writing

/-!
# What a run leaves

Only two parts of a run change the tree: an archive is unpacked before anything is made, and the
text is written when it has been made.
-/
namespace OperationClasses.CommandLine

/-- The path to load the schema from, or why there is none, with what has been done for it. -/
def sourced (s : Surroundings) (o : Options) : Except Failure String × Transcript :=
  (schemaSource s o).run.run { files := s.tree }

/-- The tree that is left when a run ends as it is, without the folder that an archive was unpacked
into, if that can be removed. -/
def remaining (temporary : Place) (t : Transcript) : FileTree :=
  if t.hasUnpacked && (t.files.removalFault? temporary).isNone then t.files.without temporary
  else t.files

/-- A text is made when the schema's path, and what else the options name, can be read and a
generator makes that text of it. -/
def Makes (s : Surroundings) (o : Options) (text : String) : Prop :=
  ∃ path g template?, (sourced s o).1 = .ok path ∧
    Reads (sourced s o).2.files s o path g template? ∧ g.generateWith template? = .ok text

theorem run_unpackSchema (s : Surroundings) (place : Place) (t : Transcript) :
    (unpackSchema s place).run.run t =
      match Archive.unpack t.files [] place.text s.temporary with
      | (.ok (), files) => (.ok (), { t with files, hasUnpacked := true })
      | (.error fault, files) => (.error (.archive fault),
          { t with files, leftovers := t.leftovers + if fault.leavesFolder then 1 else 0 }) := by
  rw [unpackSchema, Session.run_get_bind]
  rcases Archive.unpack t.files [] place.text s.temporary with ⟨_ | _, _⟩ <;> rfl

theorem sourced_of_not_packed {s : Surroundings} {o : Options} (h : isPacked s o = false) :
    sourced s o = (.ok (schemaPlace s o).text, { files := s.tree }) := by
  rw [sourced, schemaSource, h]
  rfl

/-- What is done for a packed schema is that it is unpacked. -/
theorem sourced_of_packed {s : Surroundings} {o : Options} (h : isPacked s o = true) :
    ∃ lines leftovers, sourced s o =
      match Archive.unpack s.tree [] (schemaPlace s o).text s.temporary with
      | (.ok (), files) => (.ok s.temporary.text, { files, lines, hasUnpacked := true })
      | (.error fault, files) => (.error (.archive fault), { files, lines, leftovers }) := by
  obtain ⟨lines, hsay⟩ := Session.prints_say
    ("Extracting archive " ++ (schemaPlace s o).name ++ "...") { files := s.tree }
  have hunpack := run_unpackSchema s (schemaPlace s o) { files := s.tree, lines }
  simp only [sourced, schemaSource, h, if_true]
  rw [Session.run_bind_ok hsay]
  dsimp only at hunpack
  generalize Archive.unpack s.tree [] (schemaPlace s o).text s.temporary = unpacked at hunpack ⊢
  rcases unpacked with ⟨fault | _, files⟩
  · refine ⟨lines, if fault.leavesFolder then 1 else 0, ?_⟩
    rw [Session.run_bind_error hunpack, Nat.zero_add]
  · obtain ⟨lines', hrest⟩ := (Session.prints_pure s.temporary.text).after
      (Session.prints_detail o.verbose ["  Extracted to: " ++ s.temporary.text])
      { files, lines, hasUnpacked := true }
    refine ⟨lines', 0, ?_⟩
    rw [Session.run_bind_ok hunpack, hrest]

theorem sourced_files_of_packed {s : Surroundings} {o : Options} (h : isPacked s o = true) :
    (sourced s o).2.files =
      (Archive.unpack s.tree [] (schemaPlace s o).text s.temporary).2 := by
  obtain ⟨lines, leftovers, hsource⟩ := sourced_of_packed h
  rw [hsource]
  rcases Archive.unpack s.tree [] (schemaPlace s o).text s.temporary with ⟨_ | _, _⟩ <;> rfl

/-- Making the text prints, and does nothing else once there is a path to load the schema from. -/
theorem exists_run_generateText (s : Surroundings) (o : Options) :
    ∃ lines, (generateText s o).run.run { files := s.tree } =
      ((sourced s o).1 >>= fun path => textOf (sourced s o).2.files s o path,
        { (sourced s o).2 with lines }) := by
  cases hsource : sourced s o with
  | mk source t =>
    cases source with
    | error e => exact ⟨t.lines, Session.run_bind_error hsource⟩
    | ok path =>
      rw [generateText, Session.run_bind_ok hsource, Session.run_get_bind]
      exact prints_textFrom t.files s o path t

theorem makes_iff {s : Surroundings} {o : Options} {text : String} :
    Makes s o text ↔
      ∃ n, ((sourced s o).1 >>= fun path => textOf (sourced s o).2.files s o path) =
        .ok (text, n) := by
  simp only [Makes, bind_eq_ok]
  constructor
  · rintro ⟨path, g, template?, hpath, h⟩
    obtain ⟨n, hn⟩ := exists_textOf_eq_ok_iff.mpr ⟨g, template?, h⟩
    exact ⟨n, path, hpath, hn⟩
  · rintro ⟨n, path, hpath, hn⟩
    obtain ⟨g, template?, h⟩ := exists_textOf_eq_ok_iff.mp ⟨n, hn⟩
    exact ⟨path, g, template?, hpath, h⟩

theorem cleared_files (outcome : Outcome) (temporary : Place) :
    (outcome.cleared temporary).files =
      if (outcome.files.removalFault? temporary).isNone then outcome.files.without temporary
      else outcome.files := by
  unfold Outcome.cleared
  split <;> simp [*]

/-- The tree that is left is that at the end of the session, without what was unpacked. -/
theorem generateOutcome_files (s : Surroundings) (o : Options) :
    (generateOutcome s o).files =
      remaining s.temporary ((generateFile s o).run.run { files := s.tree }).2 := by
  unfold generateOutcome remaining
  rcases (generateFile s o).run.run { files := s.tree } with ⟨failure | _, t⟩ <;>
    cases h : t.hasUnpacked <;> simp [h, cleared_files]

theorem exitCode_cleared {outcome : Outcome} {temporary : Place} (h : outcome.exitCode = 1) :
    (outcome.cleared temporary).exitCode = 1 := by
  unfold Outcome.cleared
  split <;> simp [h]

/-- A session that breaks off is a run that fails. -/
theorem exitCode_generateOutcome {s : Surroundings} {o : Options} {failure : Failure}
    (h : ((generateFile s o).run.run { files := s.tree }).1 = .error failure) :
    (generateOutcome s o).exitCode = 1 := by
  unfold generateOutcome
  rcases hrun : (generateFile s o).run.run { files := s.tree } with ⟨_, t⟩
  rw [hrun] at h
  cases h
  cases ht : t.hasUnpacked <;> simp [ht, exitCode_cleared]

theorem removalFault?_of_exitCode_cleared {outcome : Outcome} {temporary : Place}
    (h : (outcome.cleared temporary).exitCode = 0) :
    outcome.files.removalFault? temporary = none := by
  unfold Outcome.cleared at h
  split at h
  · cases h
  · assumption

/-- In a run that ends well the folder that an archive was unpacked into is removed. -/
theorem files_of_exitCode_eq_zero {s : Surroundings} {o : Options} {t : Transcript}
    (h : (generateOutcome s o).exitCode = 0)
    (hrun : (generateFile s o).run.run { files := s.tree } = (.ok (), t)) :
    (generateOutcome s o).files =
      if t.hasUnpacked then t.files.without s.temporary else t.files := by
  rw [generateOutcome_files, hrun, remaining]
  simp only [generateOutcome, hrun] at h
  cases ht : t.hasUnpacked with
  | false => simp
  | true =>
    rw [ht, if_pos rfl] at h
    simp [removalFault?_of_exitCode_cleared h]

theorem run_generateFile_of_error {s : Surroundings} {o : Options} {failure : Failure}
    {t : Transcript} (h : (generateText s o).run.run { files := s.tree } = (.error failure, t)) :
    (generateFile s o).run.run { files := s.tree } = (.error failure, t) :=
  Session.run_bind_error h

/-- A run in which no text is made fails, and leaves what it has unpacked for the schema. -/
theorem generateOutcome_of_not_makes {s : Surroundings} {o : Options}
    (h : ∀ text, ¬ Makes s o text) :
    (generateOutcome s o).exitCode = 1 ∧
      (generateOutcome s o).files = remaining s.temporary (sourced s o).2 := by
  obtain ⟨lines, hrun⟩ := exists_run_generateText s o
  cases hresult : (sourced s o).1 >>= fun path => textOf (sourced s o).2.files s o path with
  | ok p => exact absurd (makes_iff.mpr ⟨p.2, hresult⟩) (h p.1)
  | error failure =>
    have hfile : (generateFile s o).run.run { files := s.tree } =
        (.error failure, { (sourced s o).2 with lines }) :=
      run_generateFile_of_error (hrun.trans (by rw [hresult]))
    refine ⟨exitCode_generateOutcome (by rw [hfile]), ?_⟩
    rw [generateOutcome_files, hfile]
    rfl

/-- What is left of a run depends on how writing its text into its file ends. -/
theorem run_generateFile {s : Surroundings} {o : Options} {text : String} {n : ℕ} {t : Transcript}
    (h : (generateText s o).run.run { files := s.tree } = (.ok (text, n), t)) :
    (∃ fault, ((generateFile s o).run.run { files := s.tree }).1 = .error (.file fault)) ∨
      ∃ files lines, t.files.writeTextAt (outputPlace s o) text = (files, none) ∧
        (generateFile s o).run.run { files := s.tree } = (.ok (), { t with files, lines }) := by
  have hchange := Session.run_change (fun t => t.writeTextAt (outputPlace s o) text) t
  rw [generateFile, Session.run_bind_ok h]
  dsimp only at hchange ⊢
  rcases hwrite : t.files.writeTextAt (outputPlace s o) text with ⟨files, _ | fault⟩ <;>
    rw [hwrite] at hchange
  · obtain ⟨lines, hsay⟩ := Session.prints_say ("Done! Generated " ++ toString n ++
      " operations in " ++ (outputPlace s o).text) { t with files }
    exact .inr ⟨files, lines, rfl, (Session.run_bind_ok hchange).trans hsay⟩
  · exact .inl ⟨fault, by rw [Session.run_bind_error hchange]⟩

/-- A run that ends well has made a text, and the path of the output leads to it. -/
theorem exists_text_of_exitCode_eq_zero {s : Surroundings} {o : Options}
    (h : (generateOutcome s o).exitCode = 0) :
    ∃ text t, Makes s o text ∧ t.Holds [] (outputPlace s o).text text.toUTF8 ∧
      (generateOutcome s o).files =
        if (sourced s o).2.hasUnpacked then t.without s.temporary else t := by
  obtain ⟨lines, hrun⟩ := exists_run_generateText s o
  cases hresult : (sourced s o).1 >>= fun path => textOf (sourced s o).2.files s o path with
  | error failure =>
    have hnot : ∀ text, ¬ Makes s o text := by
      intro text hmakes
      obtain ⟨n, hn⟩ := makes_iff.mp hmakes
      rw [hresult] at hn
      cases hn
    simp [(generateOutcome_of_not_makes hnot).1] at h
  | ok p =>
    rw [hresult] at hrun
    obtain ⟨fault, hfault⟩ | ⟨files, lines, hwrite, hfile⟩ := run_generateFile hrun
    · simp [exitCode_generateOutcome hfault] at h
    · refine ⟨p.1, files, makes_iff.mpr ⟨p.2, hresult⟩, FileTree.holds_of_writeTextAt hwrite, ?_⟩
      exact files_of_exitCode_eq_zero h hfile

end OperationClasses.CommandLine
