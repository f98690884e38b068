import Mathlib.Data.List.Basic
import OperationClasses.Text.Blank

/-!
# Texts made of lines

A text is laid out line by line and its parts are moved to the right by a filter that takes it to
lines again. What can be seen of a line is how far it is indented and what stands there; blank lines
show nothing. A text that ends with a line break is put together, and moved to the right, as what is
seen of it is.
-/
namespace OperationClasses.Text

/-- The text of some lines, each with a line feed at its end. -/
def ofLines (ls : List (List Char)) : List Char := ls.flatMap (· ++ ['\n'])

@[simp] theorem ofLines_nil : ofLines [] = [] := rfl

@[simp] theorem ofLines_cons (l : List Char) (ls : List (List Char)) :
    ofLines (l :: ls) = l ++ '\n' :: ofLines ls := by
  simp [ofLines]

@[simp] theorem ofLines_append (ls ls' : List (List Char)) :
    ofLines (ls ++ ls') = ofLines ls ++ ofLines ls' :=
  List.flatMap_append

/-- No line ends inside. -/
def Unbroken (s : List Char) : Prop := ∀ c ∈ s, isLineBreak c = false

instance (s : List Char) : Decidable (Unbroken s) :=
  List.decidableBAll (fun c => isLineBreak c = false) s

theorem unbroken_append {s s' : List Char} : Unbroken (s ++ s') ↔ Unbroken s ∧ Unbroken s' :=
  List.forall_mem_append

theorem unbroken_replicate (n : ℕ) : Unbroken (List.replicate n ' ') := by
  intro c hc
  rw [List.eq_of_mem_replicate hc]
  decide

theorem lines_append_newline {l : List Char} (h : Unbroken l) (rest : List Char) :
    lines (l ++ '\n' :: rest) = l :: lines rest := by
  induction l with
  | nil =>
    rw [List.nil_append, lines, if_pos (by decide)]
    exact fun _ h => absurd h (by decide)
  | cons c l ih =>
    obtain ⟨hc, hl⟩ := List.forall_mem_cons.mp h
    have hreturn : c ≠ '\r' := by
      rintro rfl
      exact absurd hc (by decide)
    rw [List.cons_append, lines, if_neg (by simp [hc]), ih hl]
    exact fun _ h => absurd h hreturn

theorem lines_ofLines {ls : List (List Char)} (h : ∀ l ∈ ls, Unbroken l) :
    lines (ofLines ls) = ls := by
  induction ls with
  | nil => simp
  | cons l ls ih =>
    obtain ⟨hl, hls⟩ := List.forall_mem_cons.mp h
    rw [ofLines_cons, lines_append_newline hl, ih hls]

/-- Moving a text to the right moves its lines. -/
theorem indentChars_ofLines (w : ℕ) {l : List Char} {ls : List (List Char)}
    (h : ∀ line ∈ l :: ls, Unbroken line) :
    indentChars w (ofLines (l :: ls)) =
      ofLines ((List.replicate w ' ' ++ l) :: ls.map (indentLine w)) := by
  have hbroken : ofLines (l :: ls) ++ ['\n'] = ofLines (l :: (ls ++ [[]])) := by simp
  have hlines : lines (ofLines (l :: (ls ++ [[]]))) = l :: (ls ++ [[]]) := by
    refine lines_ofLines fun line hline => ?_
    simp only [List.mem_cons, List.mem_append, List.not_mem_nil, or_false] at hline
    rcases hline with rfl | hline | rfl
    · exact h _ (List.mem_cons_self ..)
    · exact h _ (List.mem_cons_of_mem _ hline)
    · exact fun c hc => absurd hc (List.not_mem_nil)
  have hrest : ∀ ls : List (List Char),
      ls.flatMap (fun l => '\n' :: indentLine w l) ++ ['\n'] =
        '\n' :: ofLines (ls.map (indentLine w)) := by
    intro ls
    induction ls with
    | nil => rfl
    | cons l ls ih => simp [ih]
  have hempty : indentLine w [] = [] := rfl
  rw [indentChars, hbroken, hlines]
  simp [hempty, hrest]

/-- What is seen of a line: how far it is indented, and what stands there. -/
structure Line where
  indentation : ℕ
  text : String
  deriving Repr, DecidableEq

namespace Line

/-- What is seen of the characters of a line; of a blank one nothing. -/
def read? (l : List Char) : Option Line :=
  let text := l.dropWhile (· = ' ')
  if text = [] then none else some ⟨(l.takeWhile (· = ' ')).length, String.ofList text⟩

/-- The line moved to the right. -/
def shift (w : ℕ) (l : Line) : Line := ⟨w + l.indentation, l.text⟩

theorem read?_replicate_append (w : ℕ) (l : List Char) :
    read? (List.replicate w ' ' ++ l) = (read? l).map (shift w) := by
  have hall : ∀ c ∈ List.replicate w ' ', decide (c = ' ') = true :=
    fun c hc => by simp [List.eq_of_mem_replicate hc]
  unfold read?
  rw [List.dropWhile_append_of_pos hall, List.takeWhile_append_of_pos hall]
  by_cases htext : l.dropWhile (· = ' ') = []
  · simp [htext]
  · simp [htext, shift]

theorem read?_indentLine (w : ℕ) (l : List Char) :
    read? (indentLine w l) = (read? l).map (shift w) := by
  unfold indentLine
  cases l with
  | nil => rfl
  | cons c l => exact read?_replicate_append w (c :: l)

end Line

/-- What stands on a line and is seen there as it is. -/
structure Shown (s : String) : Prop where
  unbroken : Unbroken s.toList
  head : ∃ c, s.toList.head? = some c ∧ c ≠ ' '

theorem Shown.append {s s' : String} (h : Shown s) (h' : Unbroken s'.toList) : Shown (s ++ s') := by
  obtain ⟨c, hc, hne⟩ := h.head
  refine ⟨?_, c, ?_, hne⟩
  · rw [String.toList_append]
    exact unbroken_append.mpr ⟨h.unbroken, h'⟩
  · rw [String.toList_append, List.head?_append, hc, Option.some_or]

theorem Shown.read? {s : String} (h : Shown s) (k : ℕ) :
    Line.read? (List.replicate k ' ' ++ s.toList) = some ⟨k, s⟩ := by
  obtain ⟨c, hhead, hc⟩ := h.head
  obtain ⟨rest, hs⟩ := List.head?_eq_some_iff.mp hhead
  rw [Line.read?_replicate_append]
  simp only [Line.read?, hs, List.dropWhile_cons, List.takeWhile_cons, hc, decide_false,
    Bool.false_eq_true, ↓reduceIte, List.cons_ne_nil, Option.map_some, Option.some.injEq]
  rw [← hs, String.ofList_toList]
  rfl

/-- What is seen of the lines of a text. -/
def written (s : String) : List Line := (lines s.toList).filterMap Line.read?

/-- The text ends where a line ends, and certain lines are seen of it. -/
def Writes (s : String) (ls : List Line) : Prop :=
  ∃ raw, s.toList = ofLines raw ∧ (∀ l ∈ raw, Unbroken l) ∧ raw.filterMap Line.read? = ls

variable {s s' : String} {ls ls' : List Line}

theorem Writes.written (h : Writes s ls) : written s = ls := by
  obtain ⟨raw, hs, hraw, rfl⟩ := h
  rw [Text.written, hs, lines_ofLines hraw]

theorem writes_empty : Writes "" [] := ⟨[], rfl, by simp, rfl⟩

theorem writes_blank : Writes "\n" [] := by
  refine ⟨[[]], rfl, fun l hl c hc => ?_, rfl⟩
  rw [List.mem_singleton.mp hl] at hc
  cases hc

theorem writes_line (h : Shown s) {margin : String} {k : ℕ}
    (hmargin : margin.toList = List.replicate k ' ') : Writes (margin ++ s ++ "\n") [⟨k, s⟩] := by
  refine ⟨[List.replicate k ' ' ++ s.toList], ?_, ?_, ?_⟩
  · simp [hmargin]
  · intro line hline
    rw [List.mem_singleton.mp hline]
    exact unbroken_append.mpr ⟨unbroken_replicate _, h.unbroken⟩
  · simp [h.read?]

theorem Writes.append (h : Writes s ls) (h' : Writes s' ls') : Writes (s ++ s') (ls ++ ls') := by
  obtain ⟨raw, hs, hraw, rfl⟩ := h
  obtain ⟨raw', hs', hraw', rfl⟩ := h'
  exact ⟨raw ++ raw', by simp [hs, hs'], List.forall_mem_append.mpr ⟨hraw, hraw'⟩,
    List.filterMap_append⟩

theorem writes_join {α : Type} {text : α → String} {seen : α → List Line} {as : List α}
    (h : ∀ a ∈ as, Writes (text a) (seen a)) :
    Writes (String.join (as.map text)) (as.flatMap seen) := by
  induction as with
  | nil => exact writes_empty
  | cons a as ih =>
    obtain ⟨ha, has⟩ := List.forall_mem_cons.mp h
    simpa using ha.append (ih has)

/-- Moving a text to the right moves what is seen of it. -/
theorem Writes.indent (h : Writes s ls) (hne : ls ≠ []) (w : ℕ) :
    Writes (indent w s) (ls.map (Line.shift w)) := by
  obtain ⟨raw, hs, hraw, rfl⟩ := h
  cases raw with
  | nil => exact absurd rfl hne
  | cons l raw =>
    refine ⟨(List.replicate w ' ' ++ l) :: raw.map (indentLine w), ?_, ?_, ?_⟩
    · rw [Text.indent, String.toList_ofList, hs, indentChars_ofLines w hraw]
    · obtain ⟨hl, hrest⟩ := List.forall_mem_cons.mp hraw
      refine List.forall_mem_cons.mpr ⟨unbroken_append.mpr ⟨unbroken_replicate w, hl⟩, ?_⟩
      intro line hline
      obtain ⟨source, hsource, rfl⟩ := List.mem_map.mp hline
      unfold indentLine
      split
      · exact fun c hc => absurd hc (List.not_mem_nil)
      · exact unbroken_append.mpr ⟨unbroken_replicate w, hrest source hsource⟩
    · have hmoved : (raw.map (indentLine w)).filterMap Line.read? =
          (raw.filterMap Line.read?).map (Line.shift w) := by
        rw [List.filterMap_map, List.map_filterMap]
        exact congrArg (raw.filterMap ·) (funext fun l => Line.read?_indentLine w l)
      rw [List.filterMap_cons, List.filterMap_cons, Line.read?_replicate_append, hmoved]
      cases Line.read? l <;> rfl

end OperationClasses.Text
