import Mathlib.Data.List.Chain
import Mathlib.Data.List.DropRight
import OperationClasses.Proofs.Text.Lines
import OperationClasses.Text.Comment

/-!
# Comments on one line

What becomes of a text that is made a comment. White space is left only as single spaces between
words, so no line can end in the comment; it keeps to the limit, and a comment made of a comment is
the same. As long as nothing has to be cut, the comment is the words of the text with a space between
any two of them.
-/
namespace OperationClasses.Text

/-- White space stands in a text only as spaces, no two of them side by side. -/
structure SingleSpaced (s : List Char) : Prop where
  space : ∀ c ∈ s, isBlank c → c = ' '
  apart : s.IsChain fun c d => ¬ (isBlank c ∧ isBlank d)

/-- White space stands in a text only as single spaces between other characters. -/
structure InnerSpaced (s : List Char) : Prop extends SingleSpaced s where
  head : ∀ c ∈ s.head?, isBlank c = false
  last : ∀ c ∈ s.getLast?, isBlank c = false

theorem SingleSpaced.of_isInfix {s t : List Char} (h : SingleSpaced t) (hs : s <:+: t) :
    SingleSpaced s :=
  ⟨fun c hc => h.space c (hs.mem hc), List.IsChain.infix h.apart hs⟩

/-- A space ends no line. -/
theorem SingleSpaced.unbroken {s : List Char} (h : SingleSpaced s) : Unbroken s := by
  intro c hc
  by_contra hbreak
  have hbreak : isLineBreak c = true := by simpa using hbreak
  have hspace := h.space c hc (isBlank_of_isLineBreak hbreak)
  rw [hspace] at hbreak
  exact absurd hbreak (by decide)

/-- After a blank the next thing that is written is no blank. -/
theorem head?_collapseFrom_true (s : List Char) :
    ∀ c ∈ (collapseFrom true s).head?, isBlank c = false := by
  induction s with
  | nil => simp [collapseFrom]
  | cons c rest ih =>
    by_cases hc : isBlank c
    · simpa [collapseFrom, hc] using ih
    · simp [collapseFrom, hc]

theorem singleSpaced_collapseFrom (afterBlank : Bool) (s : List Char) :
    SingleSpaced (collapseFrom afterBlank s) := by
  induction s generalizing afterBlank with
  | nil => exact ⟨by simp [collapseFrom], .nil⟩
  | cons c rest ih =>
    have hspaced := ih (isBlank c)
    by_cases hc : isBlank c
    · rw [hc] at hspaced
      cases afterBlank with
      | true => simpa [collapseFrom, hc] using hspaced
      | false =>
        have hhead := head?_collapseFrom_true rest
        simp only [collapseFrom, hc, ↓reduceIte, Bool.false_eq_true]
        refine ⟨?_, List.isChain_cons.mpr ⟨fun d hd => ?_, hspaced.apart⟩⟩
        · exact List.forall_mem_cons.mpr ⟨fun _ => rfl, hspaced.space⟩
        · simp [hhead d hd]
    · have hc : isBlank c = false := by simpa using hc
      rw [hc] at hspaced
      simp only [collapseFrom, hc, Bool.false_eq_true, ↓reduceIte]
      refine ⟨?_, List.isChain_cons.mpr ⟨fun d _ => by simp [hc], hspaced.apart⟩⟩
      exact List.forall_mem_cons.mpr ⟨by simp [hc], hspaced.space⟩

/-- The dots behind a cut are no blanks, wherever it is. -/
theorem singleSpaced_shorten {s : List Char} (h : SingleSpaced s) : SingleSpaced (shorten s) := by
  unfold shorten
  split
  · exact h
  · have hcut := h.of_isInfix (List.take_prefix (commentLimit - 3) s).isInfix
    have hdot : isBlank '.' = false := by decide
    refine ⟨?_, hcut.apart.append ?_ ?_⟩
    · intro c hc hblank
      rcases List.mem_append.mp hc with hc | hc
      · exact hcut.space c hc hblank
      · have hc : c = '.' := by simpa using hc
        simp [hc, hdot] at hblank
    · simp [hdot]
    · simp [hdot]

theorem length_shorten_le (s : List Char) : (shorten s).length ≤ commentLimit := by
  unfold shorten
  split
  · assumption
  · simp only [commentLimit, List.length_append, List.length_take, List.length_cons,
      List.length_nil]
    omega

theorem trim_eq_rdropWhile (s : List Char) :
    trim s = (s.dropWhile isBlank).rdropWhile isBlank := rfl

theorem trim_isInfix (s : List Char) : trim s <:+: s := by
  rw [trim_eq_rdropWhile]
  exact (List.rdropWhile_prefix _ _).isInfix.trans (List.dropWhile_suffix _).isInfix

theorem innerSpaced_trim {s : List Char} (h : SingleSpaced s) : InnerSpaced (trim s) := by
  refine ⟨h.of_isInfix (trim_isInfix s), fun c hc => ?_, fun c hc => ?_⟩
  · obtain ⟨tail, htail⟩ : trim s <+: s.dropWhile isBlank := List.rdropWhile_prefix _ _
    obtain ⟨rest, hrest⟩ := List.head?_eq_some_iff.mp hc
    have hnot := List.head?_dropWhile_not isBlank s
    rw [← htail, hrest] at hnot
    exact hnot
  · obtain ⟨hne, rfl⟩ := List.mem_getLast?_eq_getLast hc
    have hnot := List.rdropWhile_last_not isBlank (s.dropWhile isBlank) hne
    exact Bool.eq_false_iff.mpr hnot

theorem trim_of_ends {s : List Char} (hhead : ∀ c ∈ s.head?, isBlank c = false)
    (hlast : ∀ c ∈ s.getLast?, isBlank c = false) : trim s = s := by
  have hfront : s.dropWhile isBlank = s := by
    cases s with
    | nil => rfl
    | cons c rest => simp [hhead c rfl]
  rw [trim_eq_rdropWhile, hfront, List.rdropWhile_eq_self_iff]
  intro hne
  simp [hlast _ (List.getLast?_eq_some_getLast hne)]

/-- The words of a text: its longest pieces without white space. -/
def words (s : List Char) : List (List Char) := (s.splitOnP isBlank).filter (!·.isEmpty)

/-- The words of a text on one line, a space between any two of them. -/
def spaced (ws : List (List Char)) : List Char := [' '].intercalate ws

theorem words_cons_blank {c : Char} (hc : isBlank c) (s : List Char) :
    words (c :: s) = words s := by
  simp [words, List.splitOnP_cons_eq_if_modifyHead, hc]

/-- In front of a word a character makes the word longer. -/
theorem exists_words_cons_cons {c d : Char} (hc : isBlank c = false) (hd : isBlank d = false)
    (s : List Char) :
    ∃ w ws, words (d :: s) = w :: ws ∧ words (c :: d :: s) = (c :: w) :: ws := by
  obtain ⟨w, ws, hws⟩ := List.exists_cons_of_ne_nil (List.splitOnP_ne_nil isBlank s)
  refine ⟨d :: w, ws.filter (!·.isEmpty), ?_, ?_⟩
  · simp [words, List.splitOnP_cons_eq_if_modifyHead, hd, hws]
  · simp [words, List.splitOnP_cons_eq_if_modifyHead, hc, hd, hws]

/-- In front of a blank, or of nothing, a character is a word of its own. -/
theorem words_cons_of_end {c : Char} (hc : isBlank c = false) {s : List Char}
    (hs : ∀ d ∈ s.head?, isBlank d) : words (c :: s) = [c] :: words s := by
  cases s with
  | nil => simp [words, List.splitOnP_cons_eq_if_modifyHead, hc]
  | cons d rest => simp [words, List.splitOnP_cons_eq_if_modifyHead, hc, hs d rfl]

theorem spaced_words_eq_nil_iff {s : List Char} : spaced (words s) = [] ↔ words s = [] := by
  refine ⟨fun h => ?_, fun h => by rw [h]; rfl⟩
  cases hws : words s with
  | nil => rfl
  | cons w ws =>
    have hw : w ∈ words s := by simp [hws]
    have hne : w ≠ [] := by simpa using (List.mem_filter.mp hw).2
    rw [hws, spaced] at h
    cases ws with
    | nil => exact absurd (by simpa using h) hne
    | cons w' ws => simp [List.intercalate_cons_cons] at h

theorem rdropWhile_cons (p : Char → Bool) (c : Char) (s : List Char) :
    (c :: s).rdropWhile p =
      if p c ∧ s.rdropWhile p = [] then [] else c :: s.rdropWhile p := by
  simp only [List.rdropWhile, List.reverse_cons, List.dropWhile_append, List.isEmpty_iff,
    List.reverse_eq_nil_iff]
  by_cases hs : s.reverse.dropWhile p = []
  · by_cases hc : p c <;> simp [hs, hc]
  · simp [hs]

/-- Where no run of blanks begins it does not matter whether one has begun before. -/
theorem collapseFrom_false (s : List Char) :
    collapseFrom false s =
      if s.head?.any isBlank then ' ' :: collapseFrom true s else collapseFrom true s := by
  cases s with
  | nil => rfl
  | cons c rest => by_cases hc : isBlank c <;> simp [collapseFrom, hc]

/-- Behind a blank a text is written as its words, up to the blanks at its end. -/
theorem rdropWhile_collapseFrom (s : List Char) :
    (collapseFrom true s).rdropWhile isBlank = spaced (words s) := by
  induction s with
  | nil => rfl
  | cons c rest ih =>
    by_cases hc : isBlank c
    · simpa [collapseFrom, hc, words_cons_blank hc] using ih
    · have hc : isBlank c = false := by simpa using hc
      have hstep : collapseFrom true (c :: rest) = c :: collapseFrom false rest := by
        simp [collapseFrom, hc]
      rw [hstep, collapseFrom_false, rdropWhile_cons, if_neg (by simp [hc])]
      by_cases hend : ∀ d ∈ rest.head?, isBlank d
      · rw [words_cons_of_end hc hend]
        cases rest with
        | nil => rfl
        | cons d more =>
          have hd : isBlank d := hend d rfl
          have hspace : isBlank ' ' := by decide
          rw [if_pos (by simpa using hd), rdropWhile_cons, ih]
          simp only [hspace, true_and, spaced_words_eq_nil_iff]
          cases words (d :: more) with
          | nil => rfl
          | cons w ws => simp [spaced, List.intercalate_cons_cons]
      · obtain ⟨d, hhead, hd⟩ : ∃ d, rest.head? = some d ∧ isBlank d = false := by
          simpa using hend
        obtain ⟨more, rfl⟩ := List.head?_eq_some_iff.mp hhead
        obtain ⟨w, ws, hws, hcons⟩ := exists_words_cons_cons hc hd more
        rw [if_neg (by simp [hd]), ih, hws, hcons]
        cases ws <;> simp [spaced, List.intercalate_cons_cons]

/-- A text whose runs of blanks have become spaces is its words with a space between any two of
them, when the spaces at its ends are taken away. -/
theorem trim_collapse (s : List Char) : trim (collapse s) = spaced (words s) := by
  have hhead := head?_collapseFrom_true s
  have hdrop : (collapseFrom true s).dropWhile isBlank = collapseFrom true s := by
    cases hs : collapseFrom true s with
    | nil => rfl
    | cons c rest => simp [hhead c (by simp [hs])]
  have hfront : (collapse s).dropWhile isBlank = collapseFrom true s := by
    rw [collapse, collapseFrom_false]
    split
    · simpa [show isBlank ' ' by decide] using hdrop
    · exact hdrop
  rw [trim_eq_rdropWhile, hfront, rdropWhile_collapseFrom]

theorem collapseFrom_of_singleSpaced {s : List Char} (h : SingleSpaced s) {afterBlank : Bool}
    (hhead : afterBlank → ∀ c ∈ s.head?, isBlank c = false) : collapseFrom afterBlank s = s := by
  induction s generalizing afterBlank with
  | nil => rfl
  | cons c rest ih =>
    have hrest : SingleSpaced rest := h.of_isInfix (List.suffix_cons c rest).isInfix
    by_cases hc : isBlank c
    · have hnext : ∀ d ∈ rest.head?, isBlank d = false := by
        intro d hd
        simpa [hc] using (List.isChain_cons.mp h.apart).1 d hd
      have hstart : afterBlank = false := by
        cases afterBlank with
        | false => rfl
        | true => simpa [hc] using hhead rfl c rfl
      simp [collapseFrom, hstart, ih hrest fun _ => hnext, h.space c (by simp) hc]
    · have hstop : collapseFrom false rest = rest := ih hrest (by simp)
      simp [collapseFrom, hc, hstop]

/-- What is a comment already is left as it is. -/
theorem commentChars_of_innerSpaced {s : List Char} (h : InnerSpaced s)
    (hlength : s.length ≤ commentLimit) : commentChars s = s := by
  have hreturn : s.filter (· ≠ '\r') = s := by
    rw [List.filter_eq_self]
    intro c hc
    have hne : c ≠ '\r' := by
      rintro rfl
      exact absurd (h.space _ hc (by decide)) (by decide)
    simpa using hne
  rw [commentChars, hreturn, collapse, collapseFrom_of_singleSpaced h.toSingleSpaced (by simp),
    shorten, if_pos hlength, trim_of_ends h.head h.last]

theorem innerSpaced_commentChars (s : List Char) : InnerSpaced (commentChars s) :=
  innerSpaced_trim (singleSpaced_shorten (singleSpaced_collapseFrom false _))

theorem length_commentChars_le (s : List Char) : (commentChars s).length ≤ commentLimit :=
  (trim_isInfix _).length_le.trans (length_shorten_le _)

/-- A diagnostic becomes a comment on one line. -/
theorem unbroken_commentLine (s : String) : Unbroken (commentLine s).toList := by
  rw [commentLine, String.toList_ofList]
  exact (innerSpaced_commentChars s.toList).unbroken

/-- A comment ends no line and has at most 160 characters, its white space consists of single spaces
inside, and making a comment of it changes nothing. If the text without carriage returns and with a
space for each run of white space has no more characters than that, the comment is this text without
the spaces at its ends: the words of the text with a space between any two of them. -/
theorem fits_commentLine (text : String) :
    Unbroken (commentLine text).toList ∧ InnerSpaced (commentLine text).toList ∧
      (commentLine text).length ≤ 160 ∧ commentLine (commentLine text) = commentLine text ∧
      ∀ kept collapsed, kept = text.toList.filter (· ≠ '\r') → collapsed = collapse kept →
        collapsed.length ≤ 160 →
        (commentLine text).toList = trim collapsed ∧ trim collapsed = spaced (words kept) := by
  refine ⟨unbroken_commentLine text, ?_, ?_, ?_, ?_⟩
  · rw [commentLine, String.toList_ofList]
    exact innerSpaced_commentChars text.toList
  · rw [commentLine, String.length_ofList]
    exact length_commentChars_le text.toList
  · have hsame := commentChars_of_innerSpaced (innerSpaced_commentChars text.toList)
      (length_commentChars_le text.toList)
    rw [commentLine, commentLine, String.toList_ofList, hsame]
  · rintro kept collapsed rfl rfl hlength
    have hwhole : shorten (collapse (text.toList.filter (· ≠ '\r'))) = _ := if_pos hlength
    refine ⟨?_, trim_collapse _⟩
    rw [commentLine, String.toList_ofList, commentChars, hwhole]

/-- A diagnostic of two lines, with white space of several kinds. -/
theorem fits_commentLine_twoLines :
    (collapse ("cannot resolve\r\n\ttype  \u2028x ".toList.filter (· ≠ '\r'))).length ≤ 160 ∧
      (commentLine "cannot resolve\r\n\ttype  \u2028x ").toList = "cannot resolve type x".toList := by
  have hlength :
      (collapse ("cannot resolve\r\n\ttype  \u2028x ".toList.filter (· ≠ '\r'))).length ≤ 160 := by
    decide +kernel
  refine ⟨hlength, ((fits_commentLine _).2.2.2.2 _ _ rfl rfl hlength).1.trans ?_⟩
  decide +kernel

end OperationClasses.Text
