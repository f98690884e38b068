import OperationClasses.Archive.Extract
import OperationClasses.Proofs.Files.Confinement

/-!
# What unpacking changes

The members of a zip file are unpacked below the folder that is made for them, and nothing outside
that folder changes, whatever the members are called and wherever unpacking stops. Tape archives
give no such promise: a member's path may lead anywhere.
-/
namespace OperationClasses.Archive

/-- A step of unpacking after which the tree is as it has to be, if it was so before. -/
def Unpacking.Keeps {ε α : Type} (Good : FileTree → Prop) (m : Unpacking ε α) : Prop :=
  ∀ t, Good t → Good (m.run.run t).2

namespace Unpacking

variable {ε α β : Type} {Good : FileTree → Prop}

theorem keeps_pure (a : α) : (pure a : Unpacking ε α).Keeps Good := fun _ h => h

theorem keeps_throw (e : ε) : (throw e : Unpacking ε α).Keeps Good := fun _ h => h

theorem Keeps.bind {m : Unpacking ε α} {f : α → Unpacking ε β} (hm : m.Keeps Good)
    (hf : ∀ a, (f a).Keeps Good) : (m >>= f).Keeps Good := by
  intro t h
  have hafter := hm t h
  rw [ExceptT.run_bind, StateT.run_bind]
  rcases hrun : m.run.run t with ⟨e | a, t'⟩ <;> rw [hrun] at hafter
  · exact hafter
  · exact hf a t' hafter

theorem run_get_bind (f : FileTree → Unpacking ε β) (t : FileTree) :
    (get >>= f).run.run t = (f t).run.run t := rfl

theorem keeps_get_bind {f : FileTree → Unpacking ε β} (hf : ∀ t, (f t).Keeps Good) :
    (get >>= f).Keeps Good := fun t h => hf t t h

theorem keeps_forM {f : α → Unpacking ε Unit} (hf : ∀ a, (f a).Keeps Good) (as : List α) :
    (as.forM f).Keeps Good := by
  induction as with
  | nil => exact keeps_pure ()
  | cons a as ih => exact (hf a).bind fun _ => ih

theorem keeps_attempt {cause : FileFault → ε} {step : FileTree → FileTree.Attempt}
    (hstep : ∀ t, Good t → Good (step t).1) : (attempt cause step).Keeps Good := by
  intro t h
  have hafter := hstep t h
  unfold attempt
  rw [run_get_bind]
  rcases hresult : step t with ⟨t', _ | f⟩ <;> rw [hresult] at hafter
  · exact hafter
  · exact hafter

theorem keeps_change {cause : FileFault → ε} {path : String}
    {step : FileTree → Except FileCause FileTree}
    (hstep : ∀ t t', Good t → step t = .ok t' → Good t') :
    (change cause path step).Keeps Good := by
  refine keeps_attempt fun t h => ?_
  cases hresult : step t with
  | ok t' => exact hstep t t' h hresult
  | error c => exact h

end Unpacking

section

variable {before : FileTree} {folder : Place}

/-- The path of a member leads to a place in the folder. -/
theorem exists_memberPath (hfolder : ∀ name ∈ folder, IsName name) (name : String) :
    ∃ p : Place, folder <+: p ∧ (∀ name ∈ p, IsName name) ∧ memberPath folder name = p.text := by
  refine ⟨_, List.prefix_append _ _, ?_, rfl⟩
  intro part hpart
  obtain hpart | hpart := List.mem_append.mp hpart
  · exact hfolder part hpart
  · obtain ⟨hmem, hway⟩ := List.mem_filter.mp hpart
    have hslash := Path.slashless_of_mem_parts hmem
    simp only [List.contains_cons, List.contains_nil, Bool.or_false, Bool.not_eq_true',
      Bool.or_eq_false_iff, beq_eq_false_iff_ne] at hway
    exact ⟨hway.1, hway.2.1, hway.2.2, hslash⟩

/-- The folder above a place in the folder is in it too, or it is one of those above it, which are
there. -/
theorem keeps_makeFolderAbove {ε : Type} {cause : FileFault → ε} {p : Place} (hne : p ≠ [])
    (hp : folder <+: p) (hnames : ∀ name ∈ p, IsName name) :
    (Unpacking.makeFolderAbove cause p.text).Keeps (FileTree.Confined before folder) := by
  obtain rfl | ⟨p, name, rfl⟩ := List.eq_nil_or_concat' p
  · exact absurd rfl hne
  · have habove : ∀ name ∈ p, IsName name := fun m hm => hnames m (by simp [hm])
    have hcomparable : p <+: folder ∨ folder <+: p :=
      List.prefix_or_prefix_of_prefix (List.prefix_append p [name]) hp
    unfold Unpacking.makeFolderAbove
    rw [Place.folder_text_concat habove (hnames name (by simp))]
    refine Unpacking.keeps_get_bind fun t => ?_
    split
    · exact Unpacking.keeps_attempt fun t h => h.makeFolders hcomparable habove false
    · exact Unpacking.keeps_pure ()

theorem keeps_makeFolder {ε : Type} {cause : FileFault → ε} {p : Place}
    (hp : folder <+: p) (hnames : ∀ name ∈ p, IsName name) :
    (Unpacking.makeFolder cause p.text).Keeps (FileTree.Confined before folder) :=
  Unpacking.keeps_attempt fun _ h => h.tryFolder (.inr hp) hnames true

theorem keeps_makeFile {ε : Type} {cause : FileFault → ε} {p : Place} (hne : p ≠ [])
    (hp : folder <+: p) (hnames : ∀ name ∈ p, IsName name) (content : Except ε ByteArray) :
    (Unpacking.makeFile cause p.text content).Keeps (FileTree.Confined before folder) := by
  refine (Unpacking.keeps_change fun t t' h hwrite => h.writeFile hp hne hnames hwrite).bind
    fun _ => ?_
  intro t h
  cases content <;> exact h

theorem keeps_unpackZipEntry (hne : folder ≠ []) (hfolder : ∀ name ∈ folder, IsName name)
    (data : ByteArray) (e : Zip.Entry) :
    (unpackZipEntry data folder e).Keeps (FileTree.Confined before folder) := by
  obtain ⟨p, hp, hnames, hpath⟩ := exists_memberPath hfolder e.name
  have hp' : p ≠ [] := by rintro rfl; exact hne (List.prefix_nil.mp hp)
  unfold unpackZipEntry
  rw [hpath]
  refine (keeps_makeFolderAbove hp' hp hnames).bind fun _ => ?_
  split
  · exact keeps_makeFolder hp hnames
  · split
    · exact Unpacking.keeps_throw _
    · exact keeps_makeFile hp' hp hnames _

/-- A zip file is unpacked into its folder. -/
theorem keeps_unpackZip (hne : folder ≠ []) (hfolder : ∀ name ∈ folder, IsName name)
    (data : ByteArray) :
    (unpackZip data folder).Keeps (FileTree.Confined before folder) := by
  unfold unpackZip
  split
  · exact Unpacking.keeps_throw _
  · exact Unpacking.keeps_forM (fun e => keeps_unpackZipEntry hne hfolder data _) _

end

/-- Unpacking into a new folder leaves what is outside it as it was, unless a tape is unpacked. -/
theorem without_unpack {t : FileTree} {here folder : Place} {path : String}
    (hfresh : t.IsFresh folder) (hformat : format? (nameOf path) ≠ some .tarGzip) :
    (unpack t here path folder).2.without folder = t.without folder := by
  unfold unpack
  split
  · rfl
  · next format hsome =>
    obtain rfl : format = .zip := by cases format with
      | zip => rfl
      | tarGzip => exact absurd hsome hformat
    split
    · exact hfresh.confined_insert.outside
    · exact (keeps_unpackZip hfresh.ne_root hfresh.names _ _ hfresh.confined_insert).outside

end OperationClasses.Archive
