import OperationClasses.Archive.Extract
import OperationClasses.Proofs.Files.Paths
import OperationClasses.Proofs.Text.Case

/-!
# Names of archives

A file is treated as an archive when its name ends like that of one in letters of any case. It can
be unpacked only when these letters are small and when the name is more than the ending of a zip
file. So every name that can be unpacked is recognized, and not the other way round.
-/
namespace OperationClasses.Archive

/-- The endings of the names of archives. -/
def endings : List String := [".zip", ".tar.gz", ".tgz"]

/-- A name that ends like that of an archive, in letters of any case. -/
def LooksPacked (name : String) : Prop :=
  ∃ ending ∈ endings, ∃ w, w <:+ name.toList ∧ w.map Char.toLower = ending.toList

/-- A name that ends like that of an archive in small letters, and is not the ending of a zip file
alone. -/
structure IsUnpackable (name : String) : Prop where
  ending : ∃ ending ∈ endings, ending.toList <:+ name.toList
  ne_zip : name ≠ ".zip"

theorem hasEnding_iff {names : List String} {name : String} :
    FileTree.hasEnding names name = true ↔ ∃ ending ∈ names, ending.toList <:+ name.toList := by
  simp [FileTree.hasEnding, Text.endsWith]

theorem isArchiveName_iff {name : String} : isArchiveName name = true ↔ LooksPacked name := by
  have hall : ∀ ending ∈ endings, ending.toList.all fun d => d.toNat < 128 && d ≠ 'k' := by decide
  have hascii : ∀ ending ∈ endings, ∀ d ∈ ending.toList, d.toNat < 128 ∧ d ≠ 'k' := by
    simpa using hall
  rw [isArchiveName, hasEnding_iff, LooksPacked]
  refine exists_congr fun ending => and_congr_right fun hmem => ?_
  rw [Text.lowerText, String.toList_ofList]
  exact Text.suffix_lower_iff (hascii ending hmem)

/-- The part from the last dot on is an ending behind something else. -/
theorem suffix_eq_iff {name : String} {w : List Char} (hne : w ≠ []) (hdot : '.' ∉ w) :
    Path.suffix name = String.ofList ('.' :: w) ↔
      '.' :: w <:+ name.toList ∧ name ≠ String.ofList ('.' :: w) := by
  simp only [Path.suffix, Bool.or_eq_true, decide_eq_true_eq]
  constructor
  · intro h
    split at h
    · simp [← String.toList_inj] at h
    · next hlast =>
      obtain ⟨-, hlength⟩ := not_or.mp hlast
      have hw : (Text.behindLast '.' name).toList = w := by
        simpa [← String.toList_inj] using h
      have hless : (Text.behindLast '.' name).length < name.length := by omega
      obtain ⟨before, hbefore⟩ := Text.exists_toList_eq_of_behindLast hless
      rw [hw] at hbefore
      refine ⟨⟨before, hbefore.symm⟩, ?_⟩
      intro hname
      refine hlength ?_
      rw [← String.length_toList, ← String.length_toList, hw, hname, String.toList_ofList]
      exact le_refl _
  · rintro ⟨⟨before, hbefore⟩, hother⟩
    have hlast := Text.behindLast_of_toList_eq hbefore.symm hdot
    have hbefore_ne : before ≠ [] := by
      rintro rfl
      exact hother (by rw [← String.toList_inj, ← hbefore]; simp)
    have hlength := List.length_pos_iff.mpr hbefore_ne
    rw [hlast, if_neg]
    · simp
    · simp [← String.toList_inj, ← String.length_toList, ← hbefore, hne]
      omega

/-- A name that can be unpacked is more than an ending, and the ending is in small letters. -/
theorem isSome_format?_iff {name : String} : (format? name).isSome = true ↔ IsUnpackable name := by
  have hzip : Path.suffix name = ".zip" ↔ ".zip".toList <:+ name.toList ∧ name ≠ ".zip" :=
    suffix_eq_iff (w := ['z', 'i', 'p']) (by simp) (by decide)
  have htape : ∀ ending ∈ [".tar.gz", ".tgz"], ¬ ending.toList <:+ ".zip".toList := by decide
  have hformat : (format? name).isSome = true ↔
      Path.suffix name = ".zip" ∨ FileTree.hasEnding [".tar.gz", ".tgz"] name = true := by
    unfold format?
    split_ifs with hsuffix hending
    · exact iff_of_true rfl (.inl hsuffix)
    · exact iff_of_true rfl (.inr hending)
    · exact iff_of_false Bool.false_ne_true (not_or.mpr ⟨hsuffix, hending⟩)
  rw [hformat, hasEnding_iff, hzip]
  constructor
  · rintro (⟨hsuffix, hne⟩ | ⟨ending, hmem, hsuffix⟩)
    · exact ⟨⟨".zip", List.mem_cons_self, hsuffix⟩, hne⟩
    · refine ⟨⟨ending, List.mem_cons_of_mem _ hmem, hsuffix⟩, ?_⟩
      rintro rfl
      exact htape ending hmem hsuffix
  · rintro ⟨⟨ending, hmem, hsuffix⟩, hne⟩
    obtain rfl | hmem := List.mem_cons.mp hmem
    · exact .inl ⟨hsuffix, hne⟩
    · exact .inr ⟨ending, hmem, hsuffix⟩

theorem IsUnpackable.looksPacked {name : String} (h : IsUnpackable name) : LooksPacked name := by
  have hsmall : ∀ ending ∈ endings, ending.toList.map Char.toLower = ending.toList := by decide
  obtain ⟨ending, hmem, hsuffix⟩ := h.ending
  exact ⟨ending, hmem, ending.toList, hsuffix, hsmall ending hmem⟩

/-- A file of this name is treated as an archive exactly when it is known how to unpack one. -/
def TestsAgree (name : String) : Prop := isArchiveName name = true ↔ (format? name).isSome = true

instance (name : String) : Decidable (TestsAgree name) := inferInstanceAs (Decidable (_ ↔ _))

theorem testsAgree_iff {name : String} :
    TestsAgree name ↔ (LooksPacked name → IsUnpackable name) := by
  rw [TestsAgree, isArchiveName_iff, isSome_format?_iff]
  exact ⟨fun h => h.mp, fun h => ⟨h, IsUnpackable.looksPacked⟩⟩

/-- The name at the end of the path of a place is that of the place. -/
theorem nameOf_text {p : Place} (hp : ∀ name ∈ p, IsName name) : nameOf p.text = p.name := by
  obtain rfl | hne := eq_or_ne p []
  · decide
  · have hkept : p.filter (fun s => s ≠ "" && s ≠ ".") = p := by
      rw [List.filter_eq_self]
      intro name hname
      simp [(hp name hname).ne_empty, (hp name hname).ne_dot]
    rw [nameOf, Place.parts_text hne hp, List.filter_cons_of_neg (by simp), hkept, Place.name]

end OperationClasses.Archive
