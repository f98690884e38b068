import Mathlib.Data.List.TakeWhile
import OperationClasses.Proofs.Naming.Names
import OperationClasses.Proofs.Syntax.Rereading
import OperationClasses.Proofs.Syntax.Slices

/-!
# Ignored characters

Separators are ignored, and so is a comment up to the end of its line. What is left of a text of
names and marks are these names and marks, one behind the other. A name is read up to where its
characters end.
-/
namespace OperationClasses.Syntax

variable {c : Char} {s rest : List Char} {l : Lexeme} {more : ℕ}

/-- The characters of a text that are not ignored, given whether it begins in a comment. -/
def significantFrom : (inComment : Bool) → List Char → List Char
  | _, [] => []
  | true, c :: rest => significantFrom (!isLineEnd c) rest
  | false, c :: rest =>
    if isSeparator c then significantFrom false rest
    else if c = '#' then significantFrom true rest
    else c :: significantFrom false rest

/-- A text without white space, commas, byte order marks and comments. -/
def significant (text : String) : String := String.ofList (significantFrom false text.toList)

/-- A name or a mark, and so nothing but the characters that it is written with. -/
def Lexeme.isPlain : Lexeme → Bool
  | .mark _ | .name _ => true
  | _ => false

/-- The characters of a name or a mark. -/
def Lexeme.spelling : Lexeme → List Char
  | .mark m => m.text.toList
  | .name s => s.toList
  | _ => []

theorem isSeparator_iff : isSeparator c ↔ c ∈ [' ', '\t', ',', '\n', '\r', Char.ofNat 0xfeff] := by
  simp [isSeparator, or_assoc]

/-- Neither ignored nor the beginning of something ignored. -/
def IsSignificant (c : Char) : Prop := isSeparator c = false ∧ c ≠ '#'

theorem isSignificant_of_isNamePart (h : isNamePart c) : IsSignificant c := by
  have hignored : [' ', '\t', ',', '\n', '\r', Char.ofNat 0xfeff].all (!isNamePart ·) := by decide
  refine ⟨Bool.eq_false_iff.mpr fun hseparator => ?_, ?_⟩
  · have hnot := List.all_eq_true.mp hignored c (isSeparator_iff.mp hseparator)
    simp [h] at hnot
  · rintro rfl
    cases h

theorem isSignificant_of_ofChar? {m : Mark} (h : Mark.ofChar? c = some m) :
    IsSignificant c ∧ m.text.toList = [c] := by
  unfold Mark.ofChar? at h
  split at h <;> cases h <;> exact ⟨⟨rfl, by decide⟩, rfl⟩

theorem significantFrom_append (h : ∀ c ∈ s, IsSignificant c) (rest : List Char) :
    significantFrom false (s ++ rest) = s ++ significantFrom false rest := by
  induction s with
  | nil => rfl
  | cons c s ih =>
    obtain ⟨⟨hseparator, hcomment⟩, hs⟩ := List.forall_mem_cons.mp h
    rw [List.cons_append, significantFrom, if_neg (by simp [hseparator]), if_neg hcomment, ih hs,
      List.cons_append]

/-- A comment ends where its line does. -/
theorem significantFrom_comment (s : List Char) :
    significantFrom true s =
      significantFrom false (s.drop (s.takeWhile (!isLineEnd ·)).length) := by
  induction s with
  | nil => rfl
  | cons c s ih =>
    cases hc : isLineEnd c with
    | false => simpa [significantFrom, hc] using ih
    | true =>
      have hseparator : isSeparator c := by
        simp only [isLineEnd, Bool.or_eq_true, decide_eq_true_eq] at hc
        rcases hc with rfl | rfl <;> rfl
      simp [significantFrom, hc, hseparator]

theorem significantFrom_of_skip (h : scan c rest = .skip more) :
    significantFrom false (c :: rest) = significantFrom false (rest.drop more) := by
  rcases scan_eq_skip h with ⟨hseparator, rfl⟩ | ⟨hseparator, rfl, rfl⟩
  · rw [significantFrom, if_pos hseparator, List.drop_zero]
  · rw [significantFrom, if_neg (by simp [hseparator]), if_pos rfl, significantFrom_comment]

/-- A name or a mark is made of the characters that the lexer takes. -/
theorem cons_take_of_token (h : scan c rest = .token l more) (hl : l.isPlain) :
    c :: rest.take more = l.spelling ∧ ∀ d ∈ l.spelling, IsSignificant d := by
  rcases scan_eq_token h with
    ⟨hstart, rfl, rfl⟩ | ⟨rfl, hdots, rfl, rfl⟩ | ⟨m, hm, rfl, rfl⟩ | hliteral
  · have htake : rest.take (rest.takeWhile isNamePart).length = rest.takeWhile isNamePart :=
      List.prefix_iff_eq_take.mp (List.takeWhile_prefix _) |>.symm
    rw [Lexeme.spelling, String.toList_ofList, htake]
    refine ⟨rfl, List.forall_mem_cons.mpr ⟨?_, fun d hd => ?_⟩⟩
    · exact isSignificant_of_isNamePart (by simp [isNamePart, hstart])
    · exact isSignificant_of_isNamePart (List.mem_takeWhile_imp hd)
  · rw [hdots]
    exact ⟨rfl, by simp [Lexeme.spelling, Mark.text, IsSignificant, isSeparator]⟩
  · obtain ⟨hsignificant, htext⟩ := isSignificant_of_ofChar? hm
    rw [Lexeme.spelling, htext, List.take_zero]
    exact ⟨rfl, by simpa using hsignificant⟩
  · cases l <;> cases hl <;> cases hliteral

theorem significantFrom_of_token (h : scan c rest = .token l more) (hl : l.isPlain) :
    significantFrom false (c :: rest) = l.spelling ++ significantFrom false (rest.drop more) := by
  obtain ⟨hspelling, hsignificant⟩ := cons_take_of_token h hl
  rw [← significantFrom_append hsignificant, ← hspelling, List.cons_append,
    List.take_append_drop]

/-- The names and marks of a text are what is left of it. -/
theorem significantFrom_of_tokensFrom {off : ℕ} {used behind : List Token}
    (h : tokensFrom off s = used ++ behind) (hused : ∀ t ∈ used, t.lexeme.isPlain)
    (hend : Parse.nextLexeme behind = .finish) :
    significantFrom false s = (used.map Token.lexeme).flatMap Lexeme.spelling := by
  fun_induction tokensFrom off s generalizing used with
  | case1 off =>
    cases used with
    | nil => rfl
    | cons t used =>
      obtain ⟨rfl, -⟩ := List.cons.inj h
      cases hused _ List.mem_cons_self
  | case2 off c rest more hscan ih =>
    rw [significantFrom_of_skip hscan, ih h hused]
  | case3 off c rest l more hscan ih =>
    cases used with
    | nil =>
      rw [List.nil_append] at h
      subst h
      obtain rfl : l = .finish := hend
      rcases scan_eq_token hscan with ⟨-, hl, -⟩ | ⟨-, -, hl, -⟩ | ⟨m, -, hl, -⟩ | hl <;> cases hl
    | cons t used =>
      obtain ⟨rfl, htail⟩ := List.cons.inj h
      obtain ⟨hplain, hused⟩ := List.forall_mem_cons.mp hused
      rw [significantFrom_of_token hscan hplain, ih htail hused]
      rfl
  | case4 off c rest f k hscan =>
    cases used with
    | nil =>
      rw [List.nil_append] at h
      subst h
      cases hend
    | cons t used =>
      obtain ⟨rfl, -⟩ := List.cons.inj h
      cases hused _ List.mem_cons_self

example : significant "[ [User!],]! # all" = "[[User!]]!" := by decide

/-- The names that are read from a text are names. -/
theorem isName_of_tokensFrom {off : ℕ} {t : Token} (ht : t ∈ tokensFrom off s) {name : String}
    (hname : t.lexeme = .name name) : isName name := by
  fun_induction tokensFrom off s with
  | case1 off =>
    obtain rfl := List.mem_singleton.mp ht
    cases hname
  | case2 off c rest more hscan ih => exact ih ht
  | case3 off c rest l more hscan ih =>
    rcases List.mem_cons.mp ht with rfl | ht
    · obtain rfl : l = .name name := hname
      rcases scan_eq_token hscan with ⟨hstart, hl, -⟩ | ⟨-, -, hl, -⟩ | ⟨m, -, hl, -⟩ | hl
      · cases hl
        simp only [isName, String.toList_ofList, hstart, Bool.true_and, List.all_eq_true]
        exact fun d hd => List.mem_takeWhile_imp hd
      · cases hl
      · cases hl
      · cases hl
    · exact ih ht
  | case4 off c rest f k hscan =>
    obtain rfl := List.mem_singleton.mp ht
    cases hname

/-- A name is read up to where its characters end. -/
theorem tokensFrom_name {name : String} (hname : isName name) (off : ℕ)
    (hrest : ∀ c, rest.head? = some c → isNamePart c = false) :
    tokensFrom off (name.toList ++ rest) =
      ⟨.name name, off, off + name.toList.length⟩ ::
        tokensFrom (off + name.toList.length) rest := by
  obtain ⟨c, tail, hchars⟩ : ∃ c tail, name.toList = c :: tail :=
    List.exists_cons_of_ne_nil (by simpa using ne_empty_of_isName hname)
  obtain ⟨hstart, hparts⟩ : isNameStart c ∧ ∀ d ∈ tail, isNamePart d := by
    simpa [isName, hchars] using hname
  have htail : (tail ++ rest).takeWhile isNamePart = tail := by
    rw [takeWhile_append_of_head? hrest, List.takeWhile_eq_self_iff]
    exact hparts
  obtain ⟨hseparator, hcomment⟩ := isSignificant_of_isNamePart (c := c) (by simp [isNamePart, hstart])
  have hscan : scan c (tail ++ rest) = .token (.name name) tail.length := by
    rw [scan, if_neg (by simp [hseparator]), if_neg hcomment, if_pos hstart, htail]
    simp only [← hchars, String.ofList_toList]
  rw [hchars, List.cons_append, tokensFrom_of_token hscan, List.drop_left, List.length_cons,
    Nat.add_assoc]

end OperationClasses.Syntax
