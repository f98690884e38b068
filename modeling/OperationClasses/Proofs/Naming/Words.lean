import OperationClasses.Proofs.Naming.Names
import OperationClasses.Proofs.Text.Case

/-!
# Words of names

In snake form a name consists of small letters, digits and underscores. Its Pascal form drops the
underscores and raises what stands behind one, so it forgets the underscores that no small letter
follows, and nothing else: two names have one Pascal form exactly if their snake forms agree in the
remaining underscores and in all letters and digits.
-/
namespace OperationClasses.Naming

open Syntax Text

/-- A small letter, a digit or an underscore. -/
def isSnake (c : Char) : Bool := isSmall c || isDigit c || c == '_'

theorem isSnake_toLower {c : Char} (h : isNamePart c) : isSnake c.toLower :=
  forall_ascii (P := fun c => isNamePart c → isSnake c.toLower) (by decide)
    (toNat_lt_of_isNamePart h) h

theorem toNat_lt_of_isSnake {c : Char} (h : isSnake c) : c.toNat < 128 := by
  simp only [isSnake, isSmall, isDigit, Bool.or_eq_true, Bool.and_eq_true, decide_eq_true_eq,
    beq_iff_eq, Char.le_def, UInt32.le_iff_toNat_le] at h
  rcases h with (h | h) | rfl
  · exact Nat.lt_of_le_of_lt h.2 (by decide)
  · exact Nat.lt_of_le_of_lt h.2 (by decide)
  · decide

theorem toLower_of_isSnake {c : Char} (h : isSnake c) : c.toLower = c :=
  forall_ascii (P := fun c => isSnake c → c.toLower = c) (by decide) (toNat_lt_of_isSnake h) h

theorem not_isCapital_of_isSnake {c : Char} (h : isSnake c) : ¬ isCapital c :=
  forall_ascii (P := fun c => isSnake c → ¬ isCapital c) (by decide) (toNat_lt_of_isSnake h) h

/-- Raising a small letter can be undone; digits and underscores are not raised. -/
theorem toUpper_of_isSnake {c : Char} (h : isSnake c) :
    if isSmall c then isCapital c.toUpper ∧ c.toUpper.toLower = c else c.toUpper = c :=
  forall_ascii (P := fun c => isSnake c →
    if isSmall c then isCapital c.toUpper ∧ c.toUpper.toLower = c else c.toUpper = c)
    (by decide) (toNat_lt_of_isSnake h) h

theorem isSnake_of_mem_snakeChars {s : List Char} (h : Plain s) {c : Char}
    (hc : c ∈ snakeChars s) : isSnake c := by
  have hplain := plain_breakCapitals h
  rw [snakeChars, lower, lowerFrom_eq_map fun d hd => toNat_lt_of_isNamePart (hplain d hd),
    List.mem_map] at hc
  obtain ⟨d, hd, rfl⟩ := hc
  exact isSnake_toLower (hplain d hd)

/-- A name that begins with a small letter keeps it in snake form. -/
theorem exists_snakeChars_cons {c : Char} (h : isSmall c) (rest : List Char) :
    ∃ t, snakeChars (c :: rest) = c :: t := by
  have hsnake : isSnake c := by simp [isSnake, h]
  have hwords : ∃ t, breakWords false (c :: rest) = c :: t := by
    match rest with
    | [] => exact ⟨_, rfl⟩
    | [d] => exact ⟨_, rfl⟩
    | u :: l :: more =>
      rw [breakWords, Bool.false_and, if_neg Bool.false_ne_true]
      split
      · exact ⟨_, rfl⟩
      · exact ⟨_, rfl⟩
  have hcapitals : ∀ t, ∃ t', breakCapitals (c :: t) = c :: t' := by
    intro t
    match t with
    | [] => exact ⟨_, rfl⟩
    | u :: more =>
      rw [breakCapitals]
      split
      · exact ⟨_, rfl⟩
      · exact ⟨_, rfl⟩
  obtain ⟨t, ht⟩ := hwords
  obtain ⟨t', ht'⟩ := hcapitals t
  have hlt := toNat_lt_of_isSnake hsnake
  refine ⟨lowerFrom (if isCaseIgnorable c then false else isCased c) t', ?_⟩
  rw [snakeChars, ht, ht', lower, lowerFrom, if_neg (by omega), lowerChar, if_pos hlt,
    toLower_of_isSnake hsnake]
  rfl

/-- The words of a text in snake form, joined. `starting` says that the next character begins a
word. -/
def joinWords (starting : Bool) : List Char → List Char
  | [] => []
  | c :: rest =>
    if c = '_' then joinWords true rest
    else (if starting then c.toUpper else c) :: joinWords false rest

theorem capitalize_eq {c : Char} {rest : List Char} (h : ∀ d ∈ c :: rest, isSnake d) :
    capitalize (c :: rest) = c.toUpper :: rest := by
  have hrest : rest.map Char.toLower = rest :=
    (List.map_congr_left fun d hd => toLower_of_isSnake (h d (by simp [hd]))).trans (List.map_id _)
  rw [capitalize, titleChar, if_pos (toNat_lt_of_isSnake (h c (by simp))),
    lowerFrom_eq_map fun d hd => toNat_lt_of_isSnake (h d (by simp [hd])), hrest]
  rfl

/-- The first piece goes on with a word that was begun, or begins one. -/
theorem joinWords_eq_pieces {s : List Char} (h : ∀ c ∈ s, isSnake c) :
    ∃ w ws, pieces '_' s = w :: ws ∧ (∀ c ∈ w, isSnake c) ∧
      joinWords false s = w ++ ws.flatMap capitalize ∧
      joinWords true s = capitalize w ++ ws.flatMap capitalize := by
  induction s with
  | nil => exact ⟨[], [], rfl, by simp, rfl, rfl⟩
  | cons c rest ih =>
    obtain ⟨w, ws, hpieces, hw, hfalse, htrue⟩ := ih fun d hd => h d (by simp [hd])
    by_cases hc : c = '_'
    · refine ⟨[], w :: ws, by simp [pieces, hpieces, hc], by simp, ?_, ?_⟩
      · simp [joinWords, hc, htrue]
      · simp [joinWords, hc, htrue, capitalize]
    · have hcw : ∀ d ∈ c :: w, isSnake d := by
        intro d hd
        rcases List.mem_cons.mp hd with rfl | hd
        · exact h d (by simp)
        · exact hw d hd
      refine ⟨c :: w, ws, by simp [pieces, hpieces, hc], hcw, ?_, ?_⟩
      · simp [joinWords, hc, hfalse]
      · rw [capitalize_eq hcw]
        simp [joinWords, hc, hfalse]

theorem pascalChars_eq_joinWords {s : List Char} (h : Plain s) :
    pascalChars s = joinWords true (snakeChars s) := by
  obtain ⟨w, ws, hpieces, -, -, htrue⟩ :=
    joinWords_eq_pieces fun _ hc => isSnake_of_mem_snakeChars h hc
  rw [pascalChars, hpieces, htrue, List.flatMap_cons]

/-- A name that begins with a small letter has it raised in Pascal form. -/
theorem exists_pascalChars_cons {c : Char} (h : isSmall c) (rest : List Char) :
    ∃ t, pascalChars (c :: rest) = c.toUpper :: t := by
  have hsnake : isSnake c := by simp [isSnake, h]
  have hne : c ≠ '_' := by
    rintro rfl
    exact absurd h (by decide)
  obtain ⟨t, ht⟩ := exists_snakeChars_cons h rest
  rw [pascalChars, ht, pieces]
  cases hpieces : pieces '_' t with
  | nil => simp [capitalize, titleChar, toNat_lt_of_isSnake hsnake]
  | cons w ws => simp [hne, capitalize, titleChar, toNat_lt_of_isSnake hsnake]

/-- A text without the underscores that no small letter follows. -/
def keepMarks : List Char → List Char
  | [] => []
  | c :: rest => if c = '_' ∧ ¬ rest.head?.any isSmall then keepMarks rest else c :: keepMarks rest

/-- A text with an underscore and a small letter in place of each capital. -/
def markCapitals (s : List Char) : List Char :=
  s.flatMap fun c => if isCapital c then ['_', c.toLower] else [c]

/-- A name in snake form with an underscore for every word that begins with a letter, the first one
included, and for nothing else. -/
def marked (name : String) : String := String.ofList (keepMarks ('_' :: snakeChars name.toList))

theorem keepMarks_cons {c : Char} (h : c ≠ '_') (rest : List Char) :
    keepMarks (c :: rest) = c :: keepMarks rest := by
  simp [keepMarks, h]

/-- Which underscores stood before the words can be read off the joined words. -/
theorem markCapitals_joinWords {s : List Char} (h : ∀ c ∈ s, isSnake c) :
    markCapitals (joinWords false s) = keepMarks s ∧
      markCapitals (joinWords true s) = keepMarks ('_' :: s) := by
  induction s with
  | nil => exact ⟨rfl, rfl⟩
  | cons c rest ih =>
    obtain ⟨hfalse, htrue⟩ := ih fun d hd => h d (by simp [hd])
    have hc := h c (by simp)
    unfold markCapitals at hfalse htrue ⊢
    by_cases hmark : c = '_'
    · subst hmark
      have hdrop : keepMarks ('_' :: '_' :: rest) = keepMarks ('_' :: rest) := by
        rw [keepMarks, if_pos ⟨rfl, by simp [isSmall]⟩]
      rw [hdrop]
      exact ⟨htrue, htrue⟩
    · simp only [joinWords, hmark, if_false, if_true, Bool.false_eq_true, List.flatMap_cons, hfalse]
      have hupper := toUpper_of_isSnake hc
      refine ⟨by simp [not_isCapital_of_isSnake hc, keepMarks_cons hmark], ?_⟩
      by_cases hsmall : isSmall c
      · rw [if_pos hsmall] at hupper
        rw [if_pos hupper.1, hupper.2, keepMarks, if_neg (by simp [hsmall]), keepMarks_cons hmark]
        rfl
      · rw [if_neg hsmall] at hupper
        rw [hupper, if_neg (not_isCapital_of_isSnake hc), keepMarks, if_pos ⟨rfl, by simp [hsmall]⟩,
          keepMarks_cons hmark]
        rfl

/-- The underscores that no small letter follows are of no account for the joined words. -/
theorem joinWords_keepMarks {s : List Char} (h : ∀ c ∈ s, isSnake c) (starting : Bool) :
    joinWords starting (keepMarks s) = joinWords starting s := by
  induction s generalizing starting with
  | nil => rfl
  | cons c rest ih =>
    have ih := ih fun d hd => h d (by simp [hd])
    rw [keepMarks]
    split
    · next hdropped =>
      obtain ⟨rfl, hnext⟩ := hdropped
      rw [ih, joinWords, if_pos rfl]
      cases rest with
      | nil => rfl
      | cons d more =>
        have hsmall : ¬ isSmall d := by simpa using hnext
        have hupper := toUpper_of_isSnake (h d (by simp))
        rw [if_neg hsmall] at hupper
        simp [joinWords, hupper]
    · rw [joinWords, joinWords, ih, ih]

/-- Two names have one Pascal form exactly if the same words are marked in them. -/
theorem pascalCase_eq_iff {a b : String} (ha : isName a) (hb : isName b) :
    pascalCase a = pascalCase b ↔ marked a = marked b := by
  have hsnake : ∀ name : String, isName name → ∀ c ∈ snakeChars name.toList, isSnake c :=
    fun name hname c hc => isSnake_of_mem_snakeChars (fun d hd => isNamePart_of_mem hname hd) hc
  have hmarks : ∀ name : String, isName name →
      joinWords true (snakeChars name.toList) = joinWords false (marked name).toList ∧
        markCapitals (joinWords true (snakeChars name.toList)) = (marked name).toList := by
    intro name hname
    have hbehind : ∀ c ∈ '_' :: snakeChars name.toList, isSnake c := by
      intro c hc
      rcases List.mem_cons.mp hc with rfl | hc
      · decide
      · exact hsnake name hname c hc
    rw [marked, String.toList_ofList, joinWords_keepMarks hbehind]
    exact ⟨rfl, (markCapitals_joinWords (hsnake name hname)).2⟩
  have hpascal : ∀ name : String, isName name →
      (pascalCase name).toList = joinWords true (snakeChars name.toList) := by
    intro name hname
    rw [pascalCase, String.toList_ofList,
      pascalChars_eq_joinWords fun c hc => isNamePart_of_mem hname hc]
  obtain ⟨hja, hma⟩ := hmarks a ha
  obtain ⟨hjb, hmb⟩ := hmarks b hb
  rw [← String.toList_inj, ← String.toList_inj, hpascal a ha, hpascal b hb]
  constructor
  · intro h
    rw [← hma, ← hmb, h]
  · intro h
    rw [hja, hjb, h]

theorem filter_breakWords (inWord : Bool) (s : List Char) :
    (breakWords inWord s).filter (· ≠ '_') = s.filter (· ≠ '_') := by
  fun_induction breakWords inWord s <;> simp_all [List.filter_cons]

theorem filter_breakCapitals (s : List Char) :
    (breakCapitals s).filter (· ≠ '_') = s.filter (· ≠ '_') := by
  fun_induction breakCapitals s <;> simp_all [List.filter_cons]

/-- The snake form keeps all letters and digits, in lower case. -/
theorem filter_snakeChars {s : List Char} (h : Plain s) :
    (snakeChars s).filter (· ≠ '_') = (s.filter (· ≠ '_')).map Char.toLower := by
  have hplain := plain_breakCapitals h
  have hmark : ∀ c ∈ breakCapitals (breakWords false s), c.toLower = '_' ↔ c = '_' := by
    intro c hc
    exact forall_ascii (P := fun c => c.toLower = '_' ↔ c = '_') (by decide)
      (toNat_lt_of_isNamePart (hplain c hc))
  rw [snakeChars, lower, lowerFrom_eq_map fun d hd => toNat_lt_of_isNamePart (hplain d hd),
    List.filter_map, ← filter_breakWords false s, ← filter_breakCapitals]
  refine congrArg _ (List.filter_congr fun c hc => ?_)
  simp [hmark c hc]

theorem map_toLower_joinWords {s : List Char} (h : ∀ c ∈ s, isSnake c) (starting : Bool) :
    (joinWords starting s).map Char.toLower = s.filter (· ≠ '_') := by
  induction s generalizing starting with
  | nil => rfl
  | cons c rest ih =>
    have ih := ih fun d hd => h d (by simp [hd])
    have hc := h c (by simp)
    have hlower : (if starting then c.toUpper else c).toLower = c := by
      have hupper := toUpper_of_isSnake hc
      split
      · split at hupper
        · exact hupper.2
        · rw [hupper, toLower_of_isSnake hc]
      · exact toLower_of_isSnake hc
    by_cases hmark : c = '_'
    · simp [joinWords, hmark, ih]
    · simp [joinWords, hmark, ih, hlower]

/-- The Pascal form keeps all letters and digits, some of them in another case, and nothing else. -/
theorem map_toLower_pascalChars {s : List Char} (h : Plain s) :
    (pascalChars s).map Char.toLower = (s.filter (· ≠ '_')).map Char.toLower := by
  rw [pascalChars_eq_joinWords h,
    map_toLower_joinWords fun _ hc => isSnake_of_mem_snakeChars h hc, filter_snakeChars h]

example : marked "queryGet_user1" = "_query_get_user1" := by decide +kernel

end OperationClasses.Naming
