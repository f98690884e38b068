import Mathlib.Data.List.TakeWhile
import OperationClasses.Files.Tree

/-!
# Paths of places

The absolute path of a place, cut at its slashes, gives back the names of the place; taking away its
last name gives the path of the place above. Names that lead elsewhere, or hold slashes themselves,
are not among those that a place should have, nor among those that resolving a path gives.
-/
namespace OperationClasses

/-- A name by which a path goes on to a file or folder. -/
structure IsName (name : String) : Prop where
  ne_empty : name ≠ ""
  ne_dot : name ≠ "."
  ne_dots : name ≠ ".."
  slashless : '/' ∉ name.toList

theorem IsName.toList_ne_nil {name : String} (h : IsName name) : name.toList ≠ [] := by
  simpa using h.ne_empty

theorem IsName.step {name : String} (h : IsName name) (p : Place) :
    p.step name = p ++ [name] := by
  simp [Place.step, h.ne_empty, h.ne_dot, h.ne_dots]

namespace Text

theorem pieces_ne_nil (c : Char) (s : List Char) : pieces c s ≠ [] := by
  cases s with
  | nil => simp [pieces]
  | cons d rest =>
    rw [pieces]
    split
    · simp
    · split <;> simp

theorem pieces_cons (c d : Char) (rest : List Char) :
    pieces c (d :: rest) =
      if d = c then [] :: pieces c rest else (pieces c rest).modifyHead (d :: ·) := by
  rw [pieces]
  cases h : pieces c rest with
  | nil => exact absurd h (pieces_ne_nil c rest)
  | cons w ws => rfl

theorem pieces_eq_splitOn (c : Char) (s : List Char) : pieces c s = s.splitOn c := by
  induction s with
  | nil => rfl
  | cons d rest ih =>
    rw [pieces_cons, ih, List.splitOn, List.splitOn, List.splitOnP_cons_eq_if_modifyHead]
    simp only [beq_iff_eq]

theorem not_mem_of_mem_pieces {c : Char} {s w : List Char} (h : w ∈ pieces c s) : c ∉ w := by
  induction s generalizing w with
  | nil => simp [List.mem_singleton.mp h]
  | cons d rest ih =>
    rw [pieces_cons] at h
    split at h
    · obtain rfl | h := List.mem_cons.mp h
      · simp
      · exact ih h
    · next hd =>
      cases hrest : pieces c rest with
      | nil => exact absurd hrest (pieces_ne_nil c rest)
      | cons v vs =>
        rw [hrest] at h ih
        obtain rfl | h := List.mem_cons.mp h
        · simpa [Ne.symm hd] using ih List.mem_cons_self
        · exact ih (List.mem_cons_of_mem v h)

section

variable {c : Char} {s : String} {before w : List Char}

theorem behindLast_of_toList_eq (hs : s.toList = before ++ c :: w) (hw : c ∉ w) :
    behindLast c s = String.ofList w := by
  have hreverse : s.toList.reverse = w.reverse ++ c :: before.reverse := by simp [hs]
  rw [behindLast, hreverse, List.takeWhile_append_of_pos]
  · simp
  · simpa using fun d hd => ne_of_mem_of_not_mem hd hw

/-- What is behind the last occurrence is the whole text only if there is none. -/
theorem exists_toList_eq_of_behindLast (h : (behindLast c s).length < s.length) :
    ∃ before, s.toList = before ++ c :: (behindLast c s).toList := by
  have hreverse := s.toList.reverse.takeWhile_append_dropWhile (p := (· ≠ c))
  have hhead := List.head?_dropWhile_not (· ≠ c) s.toList.reverse
  cases hrest : s.toList.reverse.dropWhile (· ≠ c) with
  | nil =>
    rw [hrest, List.append_nil] at hreverse
    have hall : behindLast c s = s := by rw [behindLast, hreverse]; simp
    exact absurd h (by simp [hall])
  | cons d rest =>
    rw [hrest] at hreverse hhead
    obtain rfl : d = c := by simpa using hhead
    refine ⟨rest.reverse, ?_⟩
    rw [← List.reverse_inj, ← hreverse]
    simp [behindLast]

end

end Text

theorem Path.slashless_of_mem_parts {path name : String} (h : name ∈ parts path) :
    '/' ∉ name.toList := by
  obtain ⟨w, hw, rfl⟩ := List.mem_map.mp h
  simpa using Text.not_mem_of_mem_pieces hw

namespace Place

/-- The characters of names with a slash before each of them. -/
def slashed (p : Place) : List Char := p.flatMap fun name => '/' :: name.toList

theorem intercalate_eq_slashed (w : List Char) (p : Place) :
    ['/'].intercalate (w :: p.map String.toList) = w ++ slashed p := by
  induction p generalizing w with
  | nil => simp [slashed, List.intercalate]
  | cons name p ih => simp [List.intercalate_cons_cons, ih, slashed]

theorem toList_text (p : Place) : p.text.toList = if p = [] then ['/'] else slashed p := by
  cases p with
  | nil => rfl
  | cons name p =>
    have h := intercalate_eq_slashed name.toList p
    simp [text, String.toList_intercalate, h, slashed]

/-- The path of a place is cut into its names, behind the empty one that makes it absolute. -/
theorem parts_text {p : Place} (hne : p ≠ []) (hp : ∀ name ∈ p, IsName name) :
    Path.parts p.text = "" :: p := by
  have hslashes : ∀ w ∈ ([] : List Char) :: p.map String.toList, '/' ∉ w := by
    simpa using fun name hname => (hp name hname).slashless
  have hcut := List.splitOn_intercalate '/' hslashes (by simp)
  rw [intercalate_eq_slashed, List.nil_append] at hcut
  rw [Path.parts, Text.pieces_eq_splitOn, toList_text, if_neg hne, hcut]
  simp [String.ofList_toList, Function.comp_def]

@[simp] theorem start_text (here p : Place) : Place.start here p.text = [] := by
  have habsolute : Path.isAbsolute p.text = true := by
    rw [Path.isAbsolute, Text.startsWith, toList_text]
    cases p <;> simp [slashed]
  simp [start, habsolute]

section

variable {p : Place} {name : String}

theorem toList_text_concat (p : Place) (name : String) :
    (text (p ++ [name])).toList = slashed p ++ '/' :: name.toList := by
  simp [toList_text, slashed]

theorem name_text_concat (h : IsName name) : Path.name (text (p ++ [name])) = name := by
  rw [Path.name, Text.behindLast_of_toList_eq (toList_text_concat p name) h.slashless,
    String.ofList_toList]

/-- The last character of the path of a place is no slash, unless the place is the root. -/
theorem dropWhile_reverse_slashed (hp : ∀ name ∈ p, IsName name) :
    (slashed p).reverse.dropWhile (· = '/') = (slashed p).reverse := by
  obtain rfl | ⟨p, name, rfl⟩ := List.eq_nil_or_concat p
  · rfl
  · have h := hp name (by simp)
    obtain hnil | ⟨w, c, hc⟩ := List.eq_nil_or_concat name.toList
    · exact absurd hnil h.toList_ne_nil
    · have hslash : c ≠ '/' := by
        rintro rfl
        exact h.slashless (by simp [hc])
      simp [slashed, hc, hslash]

/-- A path above the last name is that of the place above. -/
theorem folder_text_concat (hp : ∀ name ∈ p, IsName name) (h : IsName name) :
    Path.folder (text (p ++ [name])) = p.text := by
  have hhead : (text (p ++ [name])).toList.take
      ((text (p ++ [name])).length - (Path.name (text (p ++ [name]))).length) =
      slashed p ++ ['/'] := by
    rw [name_text_concat h, ← String.length_toList, ← String.length_toList, toList_text_concat,
      List.append_cons, List.take_left']
    simp
    omega
  rw [Path.folder, hhead, ← String.toList_inj, toList_text]
  cases p with
  | nil => rfl
  | cons first p =>
    have hfirst := hp first (by simp)
    obtain ⟨c, hc⟩ := List.exists_mem_of_ne_nil _ hfirst.toList_ne_nil
    have hslash : ((slashed (first :: p) ++ ['/']).all (· = '/')) = false := by
      rw [List.all_eq_false]
      exact ⟨c, by simp [slashed, hc], by simpa using ne_of_mem_of_not_mem hc hfirst.slashless⟩
    simp [hslash, dropWhile_reverse_slashed hp]

/-- The path of a place has no slashes at its end to take away. -/
theorem withoutEnd_text (hne : p ≠ []) (hp : ∀ name ∈ p, IsName name) :
    Path.withoutEnd p.text = p.text := by
  have htext := toList_text p
  rw [if_neg hne] at htext
  rw [Path.withoutEnd, htext, dropWhile_reverse_slashed hp, List.reverse_reverse, ← htext,
    String.ofList_toList]

end

end Place

theorem isName_of_mem_step {p : Place} {name : String} (hp : ∀ n ∈ p, IsName n)
    (hslash : '/' ∉ name.toList) : ∀ n ∈ p.step name, IsName n := by
  intro n hn
  unfold Place.step Place.parent at hn
  split_ifs at hn with hhere hback
  · exact hp n hn
  · exact hp n (List.dropLast_subset p hn)
  · obtain hn | rfl := by simpa using hn
    · exact hp n hn
    · simp only [Bool.or_eq_true, decide_eq_true_eq, not_or] at hhere
      exact ⟨hhere.1, hhere.2, hback, hslash⟩

theorem isName_of_mem_start {here : Place} {path : String} (hhere : ∀ n ∈ here, IsName n) :
    ∀ n ∈ Place.start here path, IsName n := by
  unfold Place.start
  split
  · simp
  · exact hhere

namespace FileTree

theorem isName_resolveNames {t : FileTree} {follow : Place → List String → Place}
    (hfollow : ∀ p names, (∀ n ∈ p, IsName n) → (∀ name ∈ names, '/' ∉ name.toList) →
      ∀ n ∈ follow p names, IsName n)
    {p : Place} {names : List String} (hp : ∀ n ∈ p, IsName n)
    (hnames : ∀ name ∈ names, '/' ∉ name.toList) : ∀ n ∈ t.resolveNames follow p names, IsName n := by
  induction names generalizing p with
  | nil => exact hp
  | cons name rest ih =>
    have hrest : ∀ m ∈ rest, '/' ∉ m.toList := fun m hm => hnames m (by simp [hm])
    rw [resolveNames]
    split
    · refine hfollow _ _ (isName_of_mem_start hp) fun m hm => ?_
      obtain hm | hm := List.mem_append.mp hm
      · exact Path.slashless_of_mem_parts hm
      · exact hrest m hm
    · exact ih (isName_of_mem_step hp (hnames name (by simp))) hrest

theorem isName_resolveWithin {t : FileTree} (links : ℕ) {p : Place} {names : List String}
    (hp : ∀ n ∈ p, IsName n) (hnames : ∀ name ∈ names, '/' ∉ name.toList) :
    ∀ n ∈ t.resolveWithin links p names, IsName n := by
  induction links generalizing p names with
  | zero =>
    induction names generalizing p with
    | nil => exact hp
    | cons name rest ih =>
      exact ih (isName_of_mem_step hp (hnames name (by simp))) fun m hm => hnames m (by simp [hm])
  | succ links ih => exact isName_resolveNames (fun _ _ => ih) hp hnames

/-- A resolved path has no name left that leads elsewhere. -/
theorem isName_of_mem_resolve {t : FileTree} {here : Place} {path : String}
    (hhere : ∀ n ∈ here, IsName n) : ∀ n ∈ t.resolve here path, IsName n :=
  isName_resolveWithin maxLinks (isName_of_mem_start hhere) fun _ => Path.slashless_of_mem_parts

end FileTree

end OperationClasses
