import OperationClasses.Proofs.Result
import OperationClasses.Files.Writing

/-!
# Written files

A path over which a file was written leads to that file afterwards: following the path to where
the file is put and following it when the file is there pass the same places, because a file that
comes into being takes no folder and no link away.
-/
namespace OperationClasses.FileTree

theorem lookup_put (p q : Place) (e : FileEntry) (entries : List (Place × FileEntry)) :
    (put p e entries).lookup q = if q = p then some e else entries.lookup q := by
  induction entries with
  | nil => by_cases h : q = p <;> simp [put, List.lookup_cons, h, beq_eq_false_iff_ne.mpr]
  | cons entry rest ih =>
    obtain ⟨r, d⟩ := entry
    by_cases hr : r = p
    · subst hr
      by_cases hq : q = r <;> simp [put, List.lookup_cons, hq, beq_eq_false_iff_ne.mpr]
    · by_cases hq : q = r
      · simp [put, hr, hq]
      · simp [put, List.lookup_cons, hr, ih, beq_eq_false_iff_ne.mpr hq]

@[simp] theorem entry?_insert (t : FileTree) (p q : Place) (e : FileEntry) :
    entry? (t.insert p e) q = if q = p then some e else t.entry? q :=
  lookup_put p q e t.entries

theorem mem_places_put {p q : Place} {e : FileEntry} {entries : List (Place × FileEntry)} :
    q ∈ (put p e entries).map (·.1) ↔ q = p ∨ q ∈ entries.map (·.1) := by
  induction entries with
  | nil => simp [put]
  | cons entry rest ih =>
    obtain ⟨r, d⟩ := entry
    by_cases hr : r = p
    · simp [put, hr]
    · simp only [put, hr, if_false, List.map_cons, List.mem_cons, ih]
      tauto

theorem isFolder_iff {t : FileTree} {p : Place} :
    t.isFolder p = true ↔ p = [] ∨ t.entry? p = some .folder ∨
      ∃ q ∈ t.entries.map (·.1), p <+: q ∧ p.length < q.length := by
  simp [isFolder, or_assoc]

/-- What is put where no folder is takes no folder away. -/
theorem isFolder_insert {t : FileTree} {p q : Place} {e : FileEntry}
    (hq : t.entry? q ≠ some .folder) (hp : t.isFolder p = true) :
    (t.insert q e).isFolder p = true := by
  rw [isFolder_iff] at hp ⊢
  obtain h | h | ⟨r, hr, h⟩ := hp
  · exact .inl h
  · have hne : p ≠ q := by rintro rfl; exact hq h
    exact .inr (.inl (by simpa [hne] using h))
  · exact .inr (.inr ⟨r, mem_places_put.mpr (.inr hr), h⟩)

/-- Going on to a name needs a folder that may be searched. -/
theorem enter_eq_ok {t : FileTree} {p q : Place} {name : String} :
    t.enter p name = .ok q ↔ t.isFolder p = true ∧ (t.access p).search = true ∧
      name.utf8ByteSize ≤ Path.maxNameSize ∧ q = p.step name := by
  unfold enter
  by_cases hfolder : t.isFolder p = true
  · by_cases hsearch : (t.access p).search = true
    · by_cases hsize : Path.maxNameSize < name.utf8ByteSize
      · simp [hfolder, hsearch, hsize, Nat.not_le.mpr hsize]
      · simp [hfolder, hsearch, hsize, Nat.not_lt.mp hsize, eq_comm]
    · simp [hfolder, hsearch]
  · simp [hfolder]

/-- How a walk goes on from a name: at a link with the link's own names, at anything else from
there. -/
theorem walk_cons (t : FileTree) (mayMiss : Bool) (links : ℕ) (p : Place) (name : String)
    (rest : List String) :
    t.walk mayMiss links p (name :: rest) =
      match t.enter p name with
      | .error c => .error c
      | .ok q => match t.entry? q with
        | some (.link path) =>
          if links = 0 then .error .tooManyLinks
          else t.walk mayMiss (links - 1) (Place.start p path) (Path.parts path ++ rest)
        | some _ => t.walk mayMiss links q rest
        | none =>
          if t.isFolder q || mayMiss && rest.isEmpty then t.walk mayMiss links q rest
          else .error .missing := by
  cases links <;> rfl

theorem walk_nil (t : FileTree) (mayMiss : Bool) (links : ℕ) (p : Place) :
    t.walk mayMiss links p [] = .ok p := by
  cases links <;> rfl

/-- At a link a walk goes on with the link's own names. -/
theorem walk_link {t : FileTree} {mayMiss : Bool} {links : ℕ} {p q : Place} {name path : String}
    {rest : List String} (henter : t.enter p name = .ok q) (hq : t.entry? q = some (.link path)) :
    t.walk mayMiss (links + 1) p (name :: rest) =
      t.walk mayMiss links (Place.start p path) (Path.parts path ++ rest) := by
  simp [walk_cons, henter, hq]

/-- At anything else a walk goes on from there. -/
theorem walk_step {t : FileTree} {mayMiss : Bool} {links : ℕ} {p q : Place} {name : String}
    {rest : List String} (henter : t.enter p name = .ok q)
    (hlink : ∀ path, t.entry? q ≠ some (.link path)) (hq : t.isTaken q = true) :
    t.walk mayMiss links p (name :: rest) = t.walk mayMiss links q rest := by
  rw [walk_cons]
  cases hentry : t.entry? q with
  | none => simp_all [isTaken]
  | some e => cases e <;> simp_all

/-- What a walk that ends well has done at its first name. -/
theorem walk_cons_eq_ok {t : FileTree} {mayMiss : Bool} {links : ℕ} {p r : Place} {name : String}
    {rest : List String} (h : t.walk mayMiss links p (name :: rest) = .ok r) :
    t.enter p name = .ok (p.step name) ∧
      ((∃ path n, t.entry? (p.step name) = some (.link path) ∧ links = n + 1 ∧
          t.walk mayMiss n (Place.start p path) (Path.parts path ++ rest) = .ok r) ∨
        ((∀ path, t.entry? (p.step name) ≠ some (.link path)) ∧
          (t.isTaken (p.step name) = true ∨ mayMiss = true ∧ p.step name = r) ∧
          t.walk mayMiss links (p.step name) rest = .ok r)) := by
  rw [walk_cons] at h
  cases henter : t.enter p name with
  | error c => simp [henter] at h
  | ok q =>
    obtain ⟨-, -, -, rfl⟩ := enter_eq_ok.mp henter
    refine ⟨rfl, ?_⟩
    simp only [henter] at h
    split at h
    · next path hpath =>
      cases links with
      | zero => cases h
      | succ n => exact .inl ⟨path, n, hpath, rfl, h⟩
    · next e hlink he =>
      refine .inr ⟨fun path hpath => hlink path (Option.some.inj (he.symm.trans hpath)), ?_, h⟩
      simp [isTaken, he]
    · next hnone =>
      split at h
      · next hgo =>
        refine .inr ⟨by simp [hnone], ?_, h⟩
        rw [Bool.or_eq_true, Bool.and_eq_true] at hgo
        obtain hfolder | ⟨hmiss, hlast⟩ := hgo
        · exact .inl (by simp [isTaken, hfolder])
        · rw [List.isEmpty_iff.mp hlast, walk_nil] at h
          exact .inr ⟨hmiss, Except.ok.inj h⟩
      · cases h

/-- A walk that ends well is made of steps: the names of a link come before those that are left, and
one link less can be followed then. -/
theorem walk_induction {t : FileTree} {mayMiss : Bool} {r : Place}
    {motive : ℕ → Place → List String → Prop} (nil : ∀ links, motive links r [])
    (link : ∀ links p name rest path, t.enter p name = .ok (p.step name) →
      t.entry? (p.step name) = some (.link path) →
      motive links (Place.start p path) (Path.parts path ++ rest) →
      motive (links + 1) p (name :: rest))
    (step : ∀ links p name rest, t.enter p name = .ok (p.step name) →
      (∀ path, t.entry? (p.step name) ≠ some (.link path)) →
      (t.isTaken (p.step name) = true ∨ mayMiss = true ∧ p.step name = r) →
      motive links (p.step name) rest → motive links p (name :: rest))
    {links : ℕ} {p : Place} {names : List String} (h : t.walk mayMiss links p names = .ok r) :
    motive links p names := by
  induction links generalizing p names with
  | zero =>
    induction names generalizing p with
    | nil =>
      obtain rfl := Except.ok.inj ((walk_nil ..).symm.trans h)
      exact nil 0
    | cons name rest ih =>
      obtain ⟨henter, ⟨_, _, _, hlinks, _⟩ | ⟨hlink, htaken, hwalk⟩⟩ := walk_cons_eq_ok h
      · cases hlinks
      · exact step 0 p name rest henter hlink htaken (ih hwalk)
  | succ links ihlinks =>
    induction names generalizing p with
    | nil =>
      obtain rfl := Except.ok.inj ((walk_nil ..).symm.trans h)
      exact nil _
    | cons name rest ih =>
      obtain ⟨henter, ⟨path, n, hpath, hlinks, hwalk⟩ | ⟨hlink, htaken, hwalk⟩⟩ := walk_cons_eq_ok h
      · cases hlinks
        exact link links p name rest path henter hpath (ihlinks hwalk)
      · exact step _ p name rest henter hlink htaken (ih hwalk)

section

variable {t : FileTree} {q : Place} {data : ByteArray}

/-- What is passed on the way to a file is passed when the file is there. -/
theorem enter_insert {p r : Place} {name : String} (hfolder : t.entry? q ≠ some .folder)
    (h : t.enter p name = .ok r) : (t.insert q (.file data)).enter p name = .ok r := by
  obtain ⟨hp, hsearch, hsize, rfl⟩ := enter_eq_ok.mp h
  exact enter_eq_ok.mpr ⟨isFolder_insert hfolder hp, hsearch, hsize, rfl⟩

theorem entry?_insert_ne_link {r : Place} (hr : ∀ path, t.entry? r ≠ some (.link path))
    (path : String) : entry? (t.insert q (.file data)) r ≠ some (.link path) := by
  rw [entry?_insert]
  split
  · simp
  · exact hr path

theorem isTaken_insert {r : Place} (hfolder : t.entry? q ≠ some .folder)
    (h : t.isTaken r = true) : (t.insert q (.file data)).isTaken r = true := by
  rw [isTaken, Bool.or_eq_true] at h ⊢
  obtain h | h := h
  · rw [entry?_insert]
    split <;> simp [h]
  · exact .inr (isFolder_insert hfolder h)

/-- Where the walk to a new file has led, a walk finds the file when it is there. -/
theorem walk_insert_of_walk {links : ℕ} {p : Place} {names : List String}
    (hfolder : t.entry? q ≠ some .folder) (hlink : ∀ path, t.entry? q ≠ some (.link path))
    (h : t.walk true links p names = .ok q) :
    (t.insert q (.file data)).walk false links p names = .ok q := by
  refine walk_induction (motive := fun links p names =>
    (t.insert q (.file data)).walk false links p names = .ok q)
    (fun links => walk_nil ..) ?_ ?_ h
  · intro links p name rest path henter hpath ih
    have hne : p.step name ≠ q := by rintro rfl; exact hlink path hpath
    rw [walk_link (enter_insert hfolder henter) (by simpa [hne] using hpath), ih]
  · intro links p name rest henter hstep htaken ih
    have htaken' : (t.insert q (.file data)).isTaken (p.step name) = true := by
      obtain htaken | ⟨-, rfl⟩ := htaken
      · exact isTaken_insert hfolder htaken
      · simp [isTaken]
    rw [walk_step (enter_insert hfolder henter) (entry?_insert_ne_link hstep) htaken', ih]

/-- Where there is something a walk to it needs nothing to be missing. -/
theorem walk_of_walk {links : ℕ} {p : Place} {names : List String}
    (hq : (t.entry? q).isSome = true) (h : t.walk true links p names = .ok q) :
    t.walk false links p names = .ok q := by
  refine walk_induction (motive := fun links p names => t.walk false links p names = .ok q)
    (fun links => walk_nil ..) ?_ ?_ h
  · intro links p name rest path henter hpath ih
    rw [walk_link henter hpath, ih]
  · intro links p name rest henter hstep htaken ih
    have htaken' : t.isTaken (p.step name) = true := by
      obtain htaken | ⟨-, rfl⟩ := htaken
      · exact htaken
      · simp [isTaken, hq]
    rw [walk_step henter hstep htaken', ih]

end

/-- A tree in which a path leads to a file with the given content, or to a device that has
swallowed it. -/
def Holds (t : FileTree) (here : Place) (path : String) (data : ByteArray) : Prop :=
  ∃ q, t.locate here path = .ok q ∧ (t.content? q = some data ∨ t.entry? q = some .sink)

/-- A file is written by putting it at a place where neither a folder nor a link is listed. -/
theorem writeAt_eq_ok {t t' : FileTree} {q : Place} {data : ByteArray}
    (h : t.writeAt q data = .ok t') :
    (t.entry? q = some .sink ∧ t' = t) ∨
      (t.entry? q ≠ some .folder ∧ (∀ path, t.entry? q ≠ some (.link path)) ∧
        t' = t.insert q (.file data)) := by
  unfold writeAt at h
  split at h
  case h_1 hq => exact .inl ⟨hq, by simpa using h.symm⟩
  case h_2 hq =>
    split at h
    · exact .inr ⟨by simp [hq], by simp [hq], by simpa using h.symm⟩
    · cases h
  case h_3 => cases h
  case h_4 => cases h
  case h_5 hq =>
    split at h
    · cases h
    · split at h
      · exact .inr ⟨by simp [hq], by simp [hq], by simpa using h.symm⟩
      · cases h

/-- A path over which a file was written leads to that file. -/
theorem holds_of_writeFile {t t' : FileTree} {here : Place} {path : String} {data : ByteArray}
    (h : t.writeFile here path data = .ok t') : t'.Holds here path data := by
  obtain ⟨_, hpath, h⟩ := bind_eq_ok.mp h
  obtain ⟨q, hwalk, hwrite⟩ := bind_eq_ok.mp h
  have hlocate : ∀ {t : FileTree}, t.walk false maxLinks (Place.start here path) (Path.parts path) =
      .ok q → t.locate here path = .ok q := by
    intro t hfound
    rw [locate, hpath]
    exact hfound
  obtain ⟨hsink, rfl⟩ | ⟨hfolder, hlink, rfl⟩ := writeAt_eq_ok hwrite
  · exact ⟨q, hlocate (walk_of_walk (by simp [hsink]) hwalk), .inr hsink⟩
  · exact ⟨q, hlocate (walk_insert_of_walk hfolder hlink hwalk), .inl (by simp [content?])⟩

theorem holds_of_tryFile {t t' : FileTree} {here : Place} {path : String} {data : ByteArray}
    (h : t.tryFile here path data = (t', none)) : t'.Holds here path data := by
  unfold tryFile at h
  split at h
  · next t₁ hwrite =>
    cases h
    exact holds_of_writeFile hwrite
  · cases h

/-- A text that was written into the file at a path is there, whatever folders it took. -/
theorem holds_of_writeText {t t' : FileTree} {here : Place} {path text : String}
    (h : t.writeText here path text = (t', none)) : t'.Holds here path text.toUTF8 := by
  unfold writeText at h
  split at h
  · cases h
  · exact holds_of_tryFile h

/-- A text that was written into the file at a place is there, whatever folders it took. -/
theorem holds_of_writeTextAt {t t' : FileTree} {p : Place} {text : String}
    (h : t.writeTextAt p text = (t', none)) : t'.Holds [] p.text text.toUTF8 := by
  unfold writeTextAt at h
  split at h
  · cases h
  · exact holds_of_tryFile h

end OperationClasses.FileTree
