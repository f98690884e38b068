import OperationClasses.Files.Removal
import OperationClasses.Proofs.Files.Paths
import OperationClasses.Proofs.Files.Writing

/-!
# Changes inside a folder

Where there are no links on the way to a folder and none in it, its paths lead to places in it and
nowhere else. Making folders and files there leaves everything outside as it is, and there are still
no links. Making the folders above it changes nothing, because they are there.
-/
namespace OperationClasses.FileTree

/-- Nothing on the way to a place is a link, nor is what is there. -/
def Unlinked (t : FileTree) (p : Place) : Prop :=
  ∀ q path, q <+: p → t.entry? q ≠ some (.link path)

theorem Unlinked.mono {t : FileTree} {p q : Place} (h : t.Unlinked p) (hq : q <+: p) :
    t.Unlinked q := fun r path hr => h r path (hr.trans hq)

section

variable {t : FileTree} {mayMiss : Bool} {links : ℕ} {p q : Place} {name : String}
  {names rest : List String}

/-- A walk goes on from a name at which there is no link. -/
theorem walk_of_walk_cons (hlink : ∀ path, t.entry? (p.step name) ≠ some (.link path))
    (h : t.walk mayMiss links p (name :: rest) = .ok q) :
    t.walk mayMiss links (p.step name) rest = .ok q := by
  obtain ⟨-, ⟨path, _, hpath, _⟩ | ⟨_, _, hwalk⟩⟩ := walk_cons_eq_ok h
  · exact absurd hpath (hlink path)
  · exact hwalk

/-- Without links a walk leads where its names say. -/
theorem walk_eq_append (hnames : ∀ name ∈ names, IsName name) (hlinks : t.Unlinked (p ++ names))
    (h : t.walk mayMiss links p names = .ok q) : q = p ++ names := by
  induction names generalizing p with
  | nil => simpa [walk_nil] using h.symm
  | cons name names ih =>
    have hstep := (hnames name (by simp)).step p
    have hrest := walk_of_walk_cons (fun path => hlinks _ path (by simp [hstep])) h
    rw [hstep] at hrest
    simpa using ih (fun m hm => hnames m (by simp [hm])) (by simpa using hlinks) hrest

/-- Without links the path of a place leads there. -/
theorem walk_root_eq (hp : ∀ name ∈ p, IsName name) (hlinks : t.Unlinked p)
    (h : t.walk mayMiss links [] ("" :: p) = .ok q) : q = p :=
  walk_eq_append hp hlinks (walk_of_walk_cons (fun path => hlinks [] path List.nil_prefix) h)

end

/-- The last name of the path of a place is looked up in the place above. -/
theorem lastStep_text {t : FileTree} {p q : Place} {name name' : String}
    (hp : ∀ name ∈ p, IsName name) (h : IsName name) (hlinks : t.Unlinked p)
    (hstep : t.lastStep [] (Place.text (p ++ [name])) = .ok (q, name')) : q = p ∧ name' = name := by
  have hparts : Path.parts (Place.text (p ++ [name])) = "" :: (p ++ [name]) :=
    Place.parts_text (by simp) (by simpa [or_imp, forall_and] using ⟨hp, h⟩)
  have hreverse : ("" :: (p ++ [name])).reverse = name :: (p.reverse ++ [""]) := by simp
  rw [lastStep, hparts, hreverse] at hstep
  obtain ⟨r, hwalk, hstep⟩ := bind_eq_ok.mp hstep
  obtain ⟨_, -, hr⟩ := map_eq_ok.mp hstep
  cases hr
  rw [Place.start_text, List.reverse_append, List.reverse_reverse] at hwalk
  exact ⟨walk_root_eq hp hlinks hwalk, rfl⟩

/-- Nothing is made at the root. -/
theorem create_root (t t' : FileTree) (e : FileEntry) : t.create [] (Place.text []) e ≠ .ok t' := by
  intro h
  obtain ⟨_, _, h⟩ := bind_eq_ok.mp h
  obtain ⟨⟨q, name⟩, hstep, h⟩ := bind_eq_ok.mp h
  have hparts : (Path.parts (Path.withoutEnd (Place.text []))).reverse = [""] := by decide
  rw [lastStep, hparts] at hstep
  obtain ⟨_, -, hstep⟩ := bind_eq_ok.mp hstep
  obtain ⟨_, -, hname⟩ := map_eq_ok.mp hstep
  cases hname
  simp [isWayName] at h

/-- What is made at the path of a place without links on its way is made there, where nothing is. -/
theorem create_text {t t' : FileTree} {p : Place} {e : FileEntry} (hp : ∀ name ∈ p, IsName name)
    (hlinks : t.Unlinked p) (h : t.create [] p.text e = .ok t') :
    t.isTaken p = false ∧ t' = t.insert p e := by
  obtain rfl | ⟨p, name, rfl⟩ := List.eq_nil_or_concat' p
  · exact absurd h (create_root t t' e)
  · have hname := hp name (by simp)
    have habove : ∀ name ∈ p, IsName name := fun m hm => hp m (by simp [hm])
    obtain ⟨_, _, hbody⟩ := bind_eq_ok.mp h
    obtain ⟨⟨q, name'⟩, hstep, hmade⟩ := bind_eq_ok.mp hbody
    rw [Place.withoutEnd_text (by simp) hp] at hstep
    obtain ⟨rfl, rfl⟩ := lastStep_text habove hname (hlinks.mono (List.prefix_append _ _)) hstep
    simp only [hname.step] at hmade
    split at hmade
    · cases hmade
    · next hfree =>
      split at hmade
      · cases hmade
      · cases hmade
        have hfree : isWayName name' = false ∧ t.isTaken (q ++ [name']) = false := by
          simpa using hfree
        exact ⟨hfree.2, rfl⟩

/-- A file that is written at the path of a place without links on its way is put there. -/
theorem writeFile_text {t t' : FileTree} {p : Place} {data : ByteArray} (hne : p ≠ [])
    (hp : ∀ name ∈ p, IsName name) (hlinks : t.Unlinked p)
    (h : t.writeFile [] p.text data = .ok t') : t' = t ∨ t' = t.insert p (.file data) := by
  obtain ⟨_, _, h⟩ := bind_eq_ok.mp h
  obtain ⟨q, hwalk, hwrite⟩ := bind_eq_ok.mp h
  rw [Place.start_text, Place.parts_text hne hp] at hwalk
  obtain rfl := walk_root_eq hp hlinks hwalk
  obtain ⟨-, rfl⟩ | ⟨-, -, rfl⟩ := writeAt_eq_ok hwrite
  · exact .inl rfl
  · exact .inr rfl

theorem makeFoldersWithin_root {t : FileTree} {mayExist : Bool} {n : ℕ} :
    makeFoldersWithin [] mayExist (n + 1) t (Place.text []) =
      tryFolder [] mayExist t (Place.text []) := by
  have hname : Path.name (Place.text []) = "" := by decide
  have hfolder : Path.folder (Place.text []) = Place.text [] := by decide
  rw [makeFoldersWithin]
  simp [hname, hfolder]

/-- Before the folder at the path of a place the one above it is made, if nothing is there. -/
theorem makeFoldersWithin_concat {t : FileTree} {mayExist : Bool} {n : ℕ} {p : Place} {name : String}
    (hp : ∀ name ∈ p, IsName name) (h : IsName name) :
    makeFoldersWithin [] mayExist (n + 1) t (Place.text (p ++ [name])) =
      if p.text ≠ "" ∧ t.find? [] p.text = none then
        let attempt := makeFoldersWithin [] mayExist n t p.text
        if attempt.2.any (·.cause ≠ .present) then attempt
        else tryFolder [] mayExist attempt.1 (Place.text (p ++ [name]))
      else tryFolder [] mayExist t (Place.text (p ++ [name])) := by
  rw [makeFoldersWithin]
  simp [Place.name_text_concat h, Place.folder_text_concat hp h, h.ne_empty, h.ne_dot]

theorem mem_places_of_isSome {t : FileTree} {p : Place} (h : (t.entry? p).isSome = true) :
    p ∈ t.entries.map (·.1) := by
  by_contra hmem
  have hnone : t.entry? p = none := by
    rw [ entry?, List.lookup_eq_none_iff]
    rintro ⟨q, e⟩ he
    rw [bne_iff_ne]
    rintro rfl
    exact hmem (List.mem_map_of_mem he)
  simp [hnone] at h

theorem isPrefixOf_eq_false {p q : Place} : p.isPrefixOf q = false ↔ ¬ p <+: q := by
  rw [← List.isPrefixOf_iff_prefix, Bool.not_eq_true]

theorem mem_places_without {t : FileTree} {folder p : Place} :
    p ∈ (t.without folder).entries.map (·.1) ↔ p ∈ t.entries.map (·.1) ∧ ¬ folder <+: p := by
  simp [without, isPrefixOf_eq_false]

theorem entry?_without {t : FileTree} {folder p : Place} (h : ¬ folder <+: p) :
    entry? (t.without folder) p = t.entry? p := by
  change List.lookup p (t.entries.filter fun e => !folder.isPrefixOf e.1) = t.entries.lookup p
  induction t.entries with
  | nil => rfl
  | cons e entries ih =>
    obtain ⟨place, entry⟩ := e
    by_cases he : folder <+: place
    · have hne : p ≠ place := by rintro rfl; exact h he
      simp [he, ih, List.lookup_cons, beq_eq_false_iff_ne.mpr hne]
    · simp [isPrefixOf_eq_false.mpr he, ih, List.lookup_cons]

theorem without_insert {t : FileTree} {folder p : Place} {e : FileEntry} (h : folder <+: p) :
    (t.insert p e).without folder = t.without folder := by
  have hput : ∀ entries : List (Place × FileEntry),
      (put p e entries).filter (fun e => !folder.isPrefixOf e.1) =
        entries.filter fun e => !folder.isPrefixOf e.1 := by
    intro entries
    induction entries with
    | nil => simp [put, h]
    | cons entry entries ih =>
      obtain ⟨q, d⟩ := entry
      by_cases hq : q = p
      · simp [put, hq, h]
      · simp [put, hq, List.filter_cons, ih]
  simp [without, insert, hput]

/-- A tree that differs from an earlier one by what is in a folder at most, where there are no
links. -/
structure Confined (before : FileTree) (folder : Place) (t : FileTree) : Prop where
  outside : t.without folder = before.without folder
  made : (t.entry? folder).isSome = true
  unlinked : ∀ p path, p <+: folder ∨ folder <+: p → t.entry? p ≠ some (.link path)

namespace Confined

variable {before t t' : FileTree} {folder p : Place}

theorem unlinked_of_prefix (h : Confined before folder t) (hp : p <+: folder ∨ folder <+: p) :
    t.Unlinked p := by
  intro q path hq
  refine h.unlinked q path ?_
  obtain hp | hp := hp
  · exact .inl (hq.trans hp)
  · exact List.prefix_or_prefix_of_prefix hq hp

/-- The folder and those above it are taken. -/
theorem isTaken (h : Confined before folder t) (hp : p <+: folder) : t.isTaken p = true := by
  rw [FileTree.isTaken, Bool.or_eq_true]
  obtain hlonger | hlength := hp.length_le.lt_or_eq
  · exact .inr (isFolder_iff.mpr (.inr (.inr ⟨folder, mem_places_of_isSome h.made, hp, hlonger⟩)))
  · exact .inl (hp.eq_of_length hlength ▸ h.made)

/-- Putting something other than a link into the folder does no harm. -/
theorem insert {e : FileEntry} (h : Confined before folder t) (hp : folder <+: p)
    (he : ∀ path, e ≠ .link path) : Confined before folder (t.insert p e) where
  outside := (without_insert hp).trans h.outside
  made := by
    rw [entry?_insert]
    split
    · rfl
    · exact h.made
  unlinked := by
    intro q path hq
    rw [entry?_insert]
    split
    · simpa using he path
    · exact h.unlinked q path hq

/-- A folder that is made on the way to the folder, or in it, is made in it. -/
theorem tryFolder (h : Confined before folder t) (hp : p <+: folder ∨ folder <+: p)
    (hnames : ∀ name ∈ p, IsName name) (mayExist : Bool) :
    Confined before folder (FileTree.tryFolder [] mayExist t p.text).1 := by
  unfold FileTree.tryFolder makeFolder
  split
  · next t' hmade =>
    obtain ⟨hfree, rfl⟩ := create_text hnames (h.unlinked_of_prefix hp) hmade
    obtain hp | hp := hp
    · simp [h.isTaken hp] at hfree
    · exact h.insert hp (by simp)
  · split <;> exact h

/-- Making folders on the way to the folder, or in it, makes none outside. -/
theorem makeFolders (h : Confined before folder t) (hp : p <+: folder ∨ folder <+: p)
    (hnames : ∀ name ∈ p, IsName name) (mayExist : Bool) :
    Confined before folder (t.makeFolders [] mayExist p.text).1 := by
  rw [FileTree.makeFolders]
  generalize p.text.length = n
  induction n generalizing p with
  | zero =>
    rw [makeFoldersWithin]
    exact h.tryFolder hp hnames mayExist
  | succ n ih =>
    obtain rfl | ⟨p, name, rfl⟩ := List.eq_nil_or_concat' p
    · rw [makeFoldersWithin_root]
      exact h.tryFolder hp hnames mayExist
    · have habove : ∀ name ∈ p, IsName name := fun m hm => hnames m (by simp [hm])
      rw [makeFoldersWithin_concat habove (hnames name (by simp))]
      have hcomparable : p <+: folder ∨ folder <+: p := by
        obtain hp | hp := hp
        · exact .inl ((List.prefix_append p [name]).trans hp)
        · exact (List.prefix_or_prefix_of_prefix (List.prefix_append p [name]) hp)
      have hmade := ih hcomparable habove
      split
      · dsimp only
        split
        · exact hmade
        · exact hmade.tryFolder hp hnames mayExist
      · exact h.tryFolder hp hnames mayExist

theorem writeFile {data : ByteArray} (h : Confined before folder t) (hp : folder <+: p) (hne : p ≠ [])
    (hnames : ∀ name ∈ p, IsName name) (hwrite : t.writeFile [] p.text data = .ok t') :
    Confined before folder t' := by
  obtain rfl | rfl := writeFile_text hne hnames (h.unlinked_of_prefix (.inr hp)) hwrite
  · exact h
  · exact h.insert hp (by simp)

end Confined

/-- A place for a folder that is not there yet: its path leads over folders and no links to a folder
in which nothing has its name. -/
structure IsFresh (t : FileTree) (p : Place) : Prop where
  ne_root : p ≠ []
  names : ∀ name ∈ p, IsName name
  parent : t.isFolder p.parent = true
  unlinked : t.Unlinked p
  free : ∀ q ∈ t.entries.map (·.1), ¬ p <+: q

/-- With the new folder in it a tree is as before outside the folder. -/
theorem IsFresh.confined_insert {t : FileTree} {folder : Place} (h : t.IsFresh folder) :
    Confined t folder (t.insert folder .folder) where
  outside := without_insert (List.prefix_refl folder)
  made := by simp
  unlinked := by
    intro p path hp
    rw [entry?_insert]
    split
    · simp
    · obtain hp | hp := hp
      · exact h.unlinked p path hp
      · exact fun hentry => h.free p (mem_places_of_isSome (by simp [hentry])) hp

theorem isFolder_of_prefix {t : FileTree} {p q : Place} (hp : t.isFolder p = true) (hq : q <+: p) :
    t.isFolder q = true := by
  obtain hlonger | hlength := hq.length_le.lt_or_eq
  · rw [isFolder_iff] at hp ⊢
    obtain rfl | hp | ⟨r, hr, hpr, hlt⟩ := hp
    · simp at hlonger
    · exact .inr (.inr ⟨p, mem_places_of_isSome (by simp [hp]), hq, hlonger⟩)
    · exact .inr (.inr ⟨r, hr, hq.trans hpr, hlonger.trans hlt⟩)
  · exact hq.eq_of_length hlength ▸ hp

/-- What is above a place is above the place above it, or that one itself. -/
theorem prefix_parent {p q : Place} (h : q <+: p) (hne : q ≠ p) : q <+: p.parent := by
  obtain rfl | ⟨p, name, rfl⟩ := List.eq_nil_or_concat' p
  · exact absurd (List.prefix_nil.mp h) hne
  · simpa [Place.parent] using (List.prefix_concat_iff.mp h).resolve_left hne

/-- What is at a place and above it is the same in two trees. -/
def SameUpTo (p : Place) (t t' : FileTree) : Prop :=
  ∀ q, q <+: p → t'.entry? q = t.entry? q ∧ t'.isFolder q = t.isFolder q

theorem SameUpTo.refl (p : Place) (t : FileTree) : SameUpTo p t t := fun _ _ => ⟨rfl, rfl⟩

theorem entry?_eq_of_without_eq {t t' : FileTree} {folder p : Place}
    (h : t'.without folder = t.without folder) (hp : ¬ folder <+: p) : t'.entry? p = t.entry? p := by
  rw [← entry?_without hp, h, entry?_without hp]

theorem mem_places_of_without_eq {t t' : FileTree} {folder p : Place}
    (h : t'.without folder = t.without folder) (hp : ¬ folder <+: p)
    (hmem : p ∈ t.entries.map (·.1)) : p ∈ t'.entries.map (·.1) := by
  have hwithout : p ∈ (t.without folder).entries.map (·.1) := mem_places_without.mpr ⟨hmem, hp⟩
  rw [← h] at hwithout
  exact (mem_places_without.mp hwithout).1

/-- A place outside a new folder does not tell trees apart that differ in this folder only. -/
theorem IsFresh.sameUpTo {t t' : FileTree} {folder p : Place} (hfresh : t.IsFresh folder)
    (h : t'.without folder = t.without folder) (hp : ¬ folder <+: p) : SameUpTo p t t' := by
  intro q hq
  have hout : ¬ folder <+: q := fun hfolder => hp (hfolder.trans hq)
  have hentry := entry?_eq_of_without_eq h hout
  refine ⟨hentry, ?_⟩
  rw [Bool.eq_iff_iff, isFolder_iff]
  constructor
  · rintro (hroot | hlisted | ⟨r, hr, hqr, hlt⟩)
    · simp [isFolder, hroot]
    · exact isFolder_iff.mpr (.inr (.inl (hentry ▸ hlisted)))
    · by_cases hfolder : folder <+: r
      · have habove : q <+: folder :=
          (List.prefix_or_prefix_of_prefix hqr hfolder).resolve_right hout
        have hne : q ≠ folder := by rintro rfl; exact hout (List.prefix_refl q)
        exact isFolder_of_prefix hfresh.parent (prefix_parent habove hne)
      · exact isFolder_iff.mpr
          (.inr (.inr ⟨r, mem_places_of_without_eq h.symm hfolder hr, hqr, hlt⟩))
  · intro hfolder
    rw [isFolder_iff] at hfolder
    obtain hroot | hlisted | ⟨r, hr, hqr, hlt⟩ := hfolder
    · exact .inl hroot
    · exact .inr (.inl (hentry.trans hlisted))
    · exact .inr (.inr ⟨r, mem_places_of_without_eq h (hfresh.free r hr) hr, hqr, hlt⟩)

end OperationClasses.FileTree
