import OperationClasses.Layout.CSharp
import OperationClasses.Layout.Python
import OperationClasses.Proofs.Response.Members
import OperationClasses.Proofs.Text.Comments
import OperationClasses.Proofs.Text.Lines
import OperationClasses.Proofs.Text.Literals

/-!
# Lines of classes

Both languages lay a class out in the same way: a comment, the opening lines, the nested classes one
level deeper, then the properties, and the closing lines. What is seen of the text of a class is the
list of these lines, each at four columns for every class around it.
-/
namespace OperationClasses

mutual

/-- What holds of a class if it holds of all that are nested right in it holds of every class. -/
@[elab_as_elim]
theorem ClassModel.induction {motive : ClassModel → Prop}
    (step : ∀ c, (∀ n ∈ c.classes, motive n) → motive c) : (c : ClassModel) → motive c
  | .mk _ _ cs _ => step _ (ClassModel.induction_all step cs)

theorem ClassModel.induction_all {motive : ClassModel → Prop}
    (step : ∀ c, (∀ n ∈ c.classes, motive n) → motive c) :
    (cs : List ClassModel) → ∀ n ∈ cs, motive n
  | [], _, hn => nomatch hn
  | c :: cs, n, hn => by
    rcases List.mem_cons.mp hn with heq | hn
    · exact heq ▸ ClassModel.induction step c
    · exact ClassModel.induction_all step cs n hn

end

/-- The same class with further classes nested before its own. -/
def ClassModel.holding (extra : List ClassModel) : ClassModel → ClassModel
  | mk name properties classes c? => mk name properties (extra ++ classes) c?

mutual

/-- A class and all that are nested in it, at any depth. -/
def ClassModel.everywhere : ClassModel → List ClassModel
  | mk name ps cs c? => mk name ps cs c? :: ClassModel.everywhereAll cs

def ClassModel.everywhereAll : List ClassModel → List ClassModel
  | [] => []
  | c :: cs => c.everywhere ++ ClassModel.everywhereAll cs

end

theorem ClassModel.everywhere_eq (c : ClassModel) :
    c.everywhere = c :: c.classes.flatMap ClassModel.everywhere := by
  have hall : ∀ cs, ClassModel.everywhereAll cs = cs.flatMap ClassModel.everywhere := by
    intro cs
    induction cs with
    | nil => rfl
    | cons c cs ih => rw [everywhereAll, List.flatMap_cons, ih]
  cases c
  rw [everywhere, hall]
  rfl

theorem Response.mem_everywhere {c d : ClassModel} : d ∈ c.everywhere ↔ NestedIn c d := by
  induction c using ClassModel.induction with
  | step c ih =>
    rw [ClassModel.everywhere_eq, List.mem_cons, List.mem_flatMap]
    constructor
    · rintro (rfl | ⟨n, hn, hd⟩)
      · exact .itself d
      · exact .inside hn ((ih n hn).mp hd)
    · rintro (_ | ⟨hn, hd⟩)
      · exact .inl rfl
      · exact .inr ⟨_, hn, (ih _ hn).mpr hd⟩

instance {P : ClassModel → Prop} [DecidablePred P] (c : ClassModel) :
    Decidable (∀ d, Response.NestedIn c d → P d) :=
  decidable_of_iff (∀ d ∈ c.everywhere, P d) (by simp only [Response.mem_everywhere])

namespace Layout

open Text Response

/-- How a language writes the parts of a class. -/
structure Style where
  /-- What a comment begins with, where there are comments. -/
  mark? : Option String
  /-- The lines that open the class of a given name. -/
  opening : String → List String
  /-- The line of a property. -/
  property : Property → String
  /-- What stands for the members where there are none. -/
  filler : List String
  /-- The lines that close a class. -/
  closing : List String

/-- Lines at a level of nesting. -/
def atLevel (d : ℕ) (texts : List String) : List Line := texts.map fun text => ⟨4 * d, text⟩

namespace Style

def comment (S : Style) (c? : Option String) : List String :=
  match S.mark?, c? with
  | some mark, some c => if c = "" then [] else [mark ++ commentLine c]
  | _, _ => []

theorem comment_none (S : Style) : S.comment none = [] := by
  unfold comment
  cases S.mark? <;> rfl

theorem comment_some {S : Style} {mark : String} (h : S.mark? = some mark) (c : String) :
    S.comment (some c) = if c = "" then [] else [mark ++ commentLine c] := by
  simp only [comment, h]

/-- A property with its comment. -/
def declaration (S : Style) (p : Property) : List String := S.comment p.comment? ++ [S.property p]

/-- The properties of a class at a level of nesting. -/
def properties (S : Style) (d : ℕ) (ps : List Property) : List Line :=
  ps.flatMap fun p => atLevel d (S.declaration p)

/-- What stands between the opening and the closing lines of a class: the classes nested in it, then
its properties, and something if there are neither. -/
def body (S : Style) (d : ℕ) (nested : List (List Line)) (ps : List Property) : List Line :=
  nested.flatten ++ (S.properties d ps ++
    if nested.isEmpty && ps.isEmpty then atLevel d S.filler else [])

/-- A class around nested classes whose lines are given. -/
def around (S : Style) (d : ℕ) (c? : Option String) (name : String) (nested : List (List Line))
    (ps : List Property) : List Line :=
  atLevel d (S.comment c?) ++ (atLevel d (S.opening name) ++
    (S.body (d + 1) nested ps ++ atLevel d S.closing))

mutual

/-- The lines of a class at a level of nesting. -/
def lines (S : Style) (d : ℕ) : ClassModel → List Line
  | .mk name ps cs c? => S.around d c? name (linesAll S (d + 1) cs) ps

def linesAll (S : Style) (d : ℕ) : List ClassModel → List (List Line)
  | [] => []
  | c :: cs => lines S d c :: linesAll S d cs

end

/-- The same style without comments. -/
def bare (S : Style) : Style := { S with mark? := none }

theorem linesAll_eq_map (S : Style) (d : ℕ) (cs : List ClassModel) :
    S.linesAll d cs = cs.map (S.lines d) := by
  induction cs with
  | nil => rfl
  | cons c cs ih => rw [linesAll, List.map_cons, ih]

theorem lines_eq (S : Style) (d : ℕ) (c : ClassModel) :
    S.lines d c = S.around d c.comment? c.name (c.classes.map (S.lines (d + 1))) c.properties := by
  cases c
  rw [lines, linesAll_eq_map]
  rfl

theorem atLevel_succ (d : ℕ) (texts : List String) :
    atLevel (d + 1) texts = (atLevel d texts).map (Line.shift 4) := by
  simp only [atLevel, List.map_map]
  refine List.map_congr_left fun text _ => ?_
  simp only [Function.comp_apply, Line.shift, Line.mk.injEq, and_true]
  omega

theorem properties_succ (S : Style) (d : ℕ) (ps : List Property) :
    S.properties (d + 1) ps = (S.properties d ps).map (Line.shift 4) := by
  simp [properties, List.map_flatMap, atLevel_succ]

theorem around_succ (S : Style) (d : ℕ) (c? : Option String) (name : String)
    (nested : List (List Line)) (ps : List Property) :
    S.around (d + 1) c? name (nested.map (List.map (Line.shift 4))) ps =
      (S.around d c? name nested ps).map (Line.shift 4) := by
  have hfiller : (if nested.isEmpty && ps.isEmpty then atLevel (d + 1 + 1) S.filler else []) =
      (if nested.isEmpty && ps.isEmpty then atLevel (d + 1) S.filler else []).map
        (Line.shift 4) := by
    split
    · exact atLevel_succ ..
    · rfl
  simp only [around, body, List.map_append, atLevel_succ d, properties_succ S (d + 1), hfiller,
    List.isEmpty_map, List.map_flatten]

/-- A class one level deeper has the same lines, moved to the right. -/
theorem lines_succ (S : Style) (d : ℕ) (c : ClassModel) :
    S.lines (d + 1) c = (S.lines d c).map (Line.shift 4) := by
  induction c using ClassModel.induction generalizing d with
  | step c ih =>
    have hnested : c.classes.map (S.lines (d + 2)) =
        (c.classes.map (S.lines (d + 1))).map (List.map (Line.shift 4)) := by
      rw [List.map_map]
      exact List.map_congr_left fun n hn => ih n hn (d + 1)
    rw [lines_eq, lines_eq, hnested, around_succ]

theorem four_mul_le_of_mem_atLevel {d d' : ℕ} (h : d' ≤ d) {texts : List String} {l : Line}
    (hl : l ∈ atLevel d texts) : 4 * d' ≤ l.indentation := by
  obtain ⟨text, -, rfl⟩ := List.mem_map.mp hl
  exact Nat.mul_le_mul_left 4 h

theorem four_mul_le_of_mem_body {S : Style} {d : ℕ} {nested : List (List Line)}
    {ps : List Property} (hnested : ∀ ls ∈ nested, ∀ l ∈ ls, 4 * d ≤ l.indentation) {l : Line}
    (hl : l ∈ S.body d nested ps) : 4 * d ≤ l.indentation := by
  rw [body, List.mem_append, List.mem_append] at hl
  rcases hl with hl | hl | hl
  · obtain ⟨ls, hls, hl⟩ := List.mem_flatten.mp hl
    exact hnested ls hls l hl
  · obtain ⟨p, -, hl⟩ := List.mem_flatMap.mp hl
    exact four_mul_le_of_mem_atLevel (Nat.le_refl d) hl
  · split at hl
    · exact four_mul_le_of_mem_atLevel (Nat.le_refl d) hl
    · cases hl

theorem four_mul_le_of_mem_around {S : Style} {d : ℕ} {c? : Option String} {name : String}
    {nested : List (List Line)} {ps : List Property}
    (hnested : ∀ ls ∈ nested, ∀ l ∈ ls, 4 * (d + 1) ≤ l.indentation) {l : Line}
    (hl : l ∈ S.around d c? name nested ps) : 4 * d ≤ l.indentation := by
  simp only [around, List.mem_append] at hl
  rcases hl with hl | hl | hl | hl
  · exact four_mul_le_of_mem_atLevel (Nat.le_refl d) hl
  · exact four_mul_le_of_mem_atLevel (Nat.le_refl d) hl
  · have := four_mul_le_of_mem_body hnested hl
    omega
  · exact four_mul_le_of_mem_atLevel (Nat.le_refl d) hl

/-- No line of a class stands further to the left than the class. -/
theorem four_mul_le_of_mem_lines (S : Style) (d : ℕ) (c : ClassModel) :
    ∀ l ∈ S.lines d c, 4 * d ≤ l.indentation := by
  induction c using ClassModel.induction generalizing d with
  | step c ih =>
    intro l hl
    rw [lines_eq] at hl
    refine four_mul_le_of_mem_around (fun ls hls => ?_) hl
    obtain ⟨n, hn, rfl⟩ := List.mem_map.mp hls
    exact ih n hn (d + 1)

/-- A body is empty only where there are no members and nothing stands for them. -/
theorem body_ne_nil {S : Style} (hfiller : S.filler ≠ []) (d : ℕ) {nested : List (List Line)}
    (hnested : ∀ ls ∈ nested, ls ≠ []) (ps : List Property) : S.body d nested ps ≠ [] := by
  unfold body
  cases nested with
  | cons ls nested => simp [hnested ls]
  | nil =>
    cases ps with
    | cons p ps => simp [properties, atLevel, declaration]
    | nil => simp [properties, atLevel, hfiller]

end Style

/-- A class stands in a class under a number of others. -/
inductive StandsAt : ClassModel → ℕ → ClassModel → Prop where
  | itself (c : ClassModel) : StandsAt c 0 c
  | inside {c n e : ClassModel} {d : ℕ} : n ∈ c.classes → StandsAt n d e → StandsAt c (d + 1) e

theorem flatten_infix_around (S : Style) (d : ℕ) (c? : Option String) (name : String)
    (nested : List (List Line)) (ps : List Property) :
    nested.flatten <:+: S.around d c? name nested ps := by
  refine ⟨atLevel d (S.comment c?) ++ atLevel d (S.opening name), (S.properties (d + 1) ps ++
    if nested.isEmpty && ps.isEmpty then atLevel (d + 1) S.filler else []) ++
      atLevel d S.closing, ?_⟩
  simp [Style.around, Style.body]

theorem lines_infix_flatten {n : ClassModel} {cs : List ClassModel} (hn : n ∈ cs) (S : Style)
    (d : ℕ) : S.lines d n <:+: (cs.map (S.lines d)).flatten := by
  obtain ⟨before, after, rfl⟩ := List.append_of_mem hn
  exact ⟨(before.map (S.lines d)).flatten, (after.map (S.lines d)).flatten, by simp⟩

/-- The lines of a class at its depth stand together in the lines of any class around it. -/
theorem StandsAt.lines_infix {c e : ClassModel} {k : ℕ} (h : StandsAt c k e) (S : Style) (d : ℕ) :
    S.lines (d + k) e <:+: S.lines d c := by
  induction h generalizing d with
  | itself => exact List.infix_refl _
  | @inside c n e k hn _ ih =>
    have hbelow : S.lines (d + (k + 1)) e <:+: S.lines (d + 1) n := by
      rw [show d + (k + 1) = d + 1 + k by omega]
      exact ih (d + 1)
    rw [S.lines_eq d c]
    exact (hbelow.trans (lines_infix_flatten hn S (d + 1))).trans (flatten_infix_around ..)

/-- No white space stands at either end of a name or a type, which is not empty, and no line ends in
it. -/
structure Tidy (s : String) : Prop where
  nonempty : s ≠ ""
  unbroken : Unbroken s.toList
  ends : ∀ c, s.toList.head? = some c ∨ s.toList.getLast? = some c → isBlank c = false

theorem Tidy.shown {s : String} (h : Tidy s) : Shown s := by
  obtain ⟨c, rest, hs⟩ := List.exists_cons_of_ne_nil
    fun heq => h.nonempty (String.toList_eq_nil_iff.mp heq)
  refine ⟨h.unbroken, c, by rw [hs, List.head?_cons], ?_⟩
  rintro rfl
  exact absurd (h.ends ' ' (.inl (by rw [hs, List.head?_cons]))) (by decide)

instance (s : String) : Decidable (Tidy s) :=
  decidable_of_iff (s ≠ "" ∧ Unbroken s.toList ∧ (s.toList.head?.all fun c => !isBlank c) ∧
      s.toList.getLast?.all fun c => !isBlank c) <| by
    simp only [Option.all_eq_true, Bool.not_eq_true']
    exact ⟨fun ⟨hne, hs, hhead, hlast⟩ => ⟨hne, hs, fun c hc => hc.elim (hhead c) (hlast c)⟩,
      fun h => ⟨h.nonempty, h.unbroken, fun c hc => h.ends c (.inl hc),
        fun c hc => h.ends c (.inr hc)⟩⟩

/-- The names and types that a class writes are tidy. -/
structure TidyMembers (c : ClassModel) : Prop where
  name : Tidy c.name
  properties : ∀ p ∈ c.properties, Tidy p.name ∧ Tidy p.type

instance (c : ClassModel) : Decidable (TidyMembers c) :=
  decidable_of_iff (Tidy c.name ∧ ∀ p ∈ c.properties, Tidy p.name ∧ Tidy p.type)
    ⟨fun h => ⟨h.1, h.2⟩, fun h => ⟨h.name, h.properties⟩⟩

/-- A comment behind its mark and a margin, which is left out if there is nothing to say, is seen as
a line. -/
theorem writes_comment {S : Style} {mark margin : String} {d : ℕ} (hS : S.mark? = some mark)
    (hmark : Shown mark) (hmargin : margin.toList = List.replicate (4 * d) ' ')
    {text : Option String → String} (hnone : text none = "")
    (hsome : ∀ c, text (some c) =
      if c = "" then "" else margin ++ (mark ++ commentLine c) ++ "\n") (c? : Option String) :
    Writes (text c?) (atLevel d (S.comment c?)) := by
  cases c? with
  | none =>
    rw [hnone, Style.comment_none]
    exact writes_empty
  | some c =>
    rw [hsome, Style.comment_some hS]
    split
    · exact writes_empty
    · exact writes_line (hmark.append (unbroken_commentLine c)) hmargin

theorem fourColumns : "    ".toList = List.replicate 4 ' ' := rfl

/-- The texts of nested classes are moved to the right and set off by blank lines. -/
theorem writes_nested {S : Style} {text : ClassModel → String} {cs : List ClassModel}
    (h : ∀ c ∈ cs, Writes (text c) (S.lines 0 c)) (hopening : ∀ name, S.opening name ≠ []) :
    Writes (String.join ((cs.map text).map fun n => indent 4 n ++ "\n"))
      (cs.map (S.lines 1)).flatten := by
  rw [List.map_map, ← List.flatMap_def]
  refine writes_join fun c hc => ?_
  have hne : S.lines 0 c ≠ [] := by
    rw [Style.lines_eq]
    simp [Style.around, atLevel, hopening]
  have hmoved := ((h c hc).indent hne 4).append writes_blank
  rwa [List.append_nil, ← Style.lines_succ] at hmoved

/-- How Python writes the parts of a class, with its annotations in quotes or without. -/
def pythonStyle (quoted : Bool) : Style where
  mark? := some "# "
  opening name := ["class " ++ name ++ "(GraphQLModel):"]
  property p := p.name ++ ": " ++ (if quoted then escaped p.type else p.type) ++ Python.initial p
  filler := ["pass"]
  closing := []

namespace Python

theorem classTexts_eq_map (cs : List ClassModel) : classTexts cs = cs.map classText := by
  induction cs with
  | nil => rfl
  | cons c cs ih => rw [classTexts, List.map_cons, ih]

theorem classText_eq (c : ClassModel) :
    classText c = classAround false c.comment? c.name (c.classes.map classText) c.properties := by
  cases c
  rw [classText, classTexts_eq_map]
  rfl

theorem moduleClass_eq (c : ClassModel) :
    moduleClass c = classAround true c.comment? c.name (c.classes.map classText) c.properties := by
  rw [moduleClass, classTexts_eq_map]

theorem writes_comment (quoted : Bool) (c? : Option String) :
    Writes (comment c?) (atLevel 0 ((pythonStyle quoted).comment c?)) := by
  have hmark : Shown "# " := ⟨by decide, '#', rfl, by decide⟩
  exact Layout.writes_comment (d := 0) rfl hmark String.toList_empty rfl
    (fun c => by rw [String.empty_append]; rfl) c?

theorem unbroken_initial (p : Property) : Unbroken (initial p).toList := by
  have hescaped : Unbroken (escaped p.graphqlName).toList :=
    fun c hc => isLineBreak_of_mem_escaped hc
  unfold initial
  split
  · simp only [String.toList_append, unbroken_append]
    refine ⟨⟨⟨⟨by decide, ?_⟩, by decide⟩, hescaped⟩, by decide⟩
    split <;> decide
  · split <;> decide

theorem shown_property (quoted : Bool) {p : Property} (hname : Tidy p.name) (htype : Tidy p.type) :
    Shown ((pythonStyle quoted).property p) := by
  have hannotation : Unbroken (if quoted then escaped p.type else p.type).toList := by
    split
    · exact fun c hc => isLineBreak_of_mem_escaped hc
    · exact htype.unbroken
  exact ((hname.shown.append (by decide)).append hannotation).append (unbroken_initial p)

theorem writes_property (quoted : Bool) {p : Property} (hname : Tidy p.name) (htype : Tidy p.type) :
    Writes (indent 4 (property quoted p)) (atLevel 1 ((pythonStyle quoted).declaration p)) := by
  have hline := writes_line (k := 0) (shown_property quoted hname htype) String.toList_empty
  have hwrites := (writes_comment quoted p.comment?).append hline
  have hmoved := hwrites.indent (by simp) 4
  rw [Style.declaration, Style.atLevel_succ]
  simpa [atLevel, property, pythonStyle, String.append_assoc] using hmoved

theorem writes_classAround (quoted : Bool) (c? : Option String) {name : String} (hname : Tidy name)
    {nested : List String} {ls : List (List Line)} (hempty : nested.isEmpty = ls.isEmpty)
    (hnested : Writes (String.join (nested.map fun n => indent 4 n ++ "\n")) ls.flatten)
    {ps : List Property} (hps : ∀ p ∈ ps, Tidy p.name ∧ Tidy p.type) :
    Writes (classAround quoted c? name nested ps)
      ((pythonStyle quoted).around 0 c? name ls ps) := by
  have hopening : Shown ("class " ++ name ++ "(GraphQLModel):") :=
    (Shown.append ⟨by decide, 'c', rfl, by decide⟩ hname.unbroken).append (by decide)
  have hpass : Shown "pass" := ⟨by decide, 'p', rfl, by decide⟩
  have hproperties := writes_join fun p hp => writes_property quoted (hps p hp).1 (hps p hp).2
  have hfiller : Writes (if nested.isEmpty && ps.isEmpty then "    pass\n" else "")
      (if ls.isEmpty && ps.isEmpty then atLevel 1 ["pass"] else []) := by
    rw [hempty]
    split
    · exact writes_line hpass fourColumns
    · exact writes_empty
  have hline := writes_line (k := 0) hopening String.toList_empty
  have hwrites := (writes_comment quoted c?).append
    (hline.append (hnested.append (hproperties.append hfiller)))
  have hheader : "(GraphQLModel):\n" = "(GraphQLModel):" ++ "\n" := rfl
  rw [classAround, hheader]
  simpa [Style.around, Style.body, Style.properties, pythonStyle, atLevel, String.append_assoc]
    using hwrites

/-- What is seen of the text of a class without quotes are the lines of the class. -/
theorem writes_classText (c : ClassModel) (h : ∀ d, NestedIn c d → TidyMembers d) :
    Writes (classText c) ((pythonStyle false).lines 0 c) := by
  induction c using ClassModel.induction with
  | step c ih =>
    have htidy := h c (.itself c)
    have hnested := writes_nested (S := pythonStyle false)
      (fun n hn => ih n hn fun d hd => h d (.inside hn hd)) (by simp [pythonStyle])
    rw [classText_eq, Style.lines_eq]
    exact writes_classAround false c.comment? htidy.name (by simp) hnested htidy.properties

/-- A class at the level of the module has its own annotations in quotes. -/
theorem writes_moduleClass {c : ClassModel} (h : ∀ d, NestedIn c d → TidyMembers d) :
    Writes (moduleClass c) ((pythonStyle true).around 0 c.comment? c.name
      (c.classes.map ((pythonStyle false).lines 1)) c.properties) := by
  have htidy := h c (.itself c)
  have hnested := writes_nested (S := pythonStyle false)
    (fun n hn => writes_classText n fun d hd => h d (.inside hn hd)) (by simp [pythonStyle])
  rw [moduleClass_eq]
  exact writes_classAround true c.comment? htidy.name (by simp) hnested htidy.properties

/-- The text of a class at the level of the module, with annotations in quotes, or of one among the
classes of an operation. -/
def rendered (quoted : Bool) (c : ClassModel) : String :=
  if quoted then moduleClass c else classText c

theorem written_rendered (quoted : Bool) {c : ClassModel}
    (h : ∀ d, NestedIn c d → TidyMembers d) :
    written (rendered quoted c) = (pythonStyle quoted).around 0 c.comment? c.name
      (c.classes.map ((pythonStyle false).lines 1)) c.properties := by
  cases quoted with
  | true => exact (writes_moduleClass h).written
  | false =>
    rw [← Style.lines_eq]
    exact (writes_classText c h).written

end Python

/-- How C# writes the parts of a class. -/
def csharpStyle : Style where
  mark? := some "// "
  opening name := ["public class " ++ name, "\x7b"]
  property p := "public " ++ p.type ++ " " ++ p.name ++ " \x7b get; set; \x7d"
  filler := []
  closing := ["\x7d"]

namespace CSharp

theorem classTexts_eq_map (cs : List ClassModel) : classTexts cs = cs.map classText := by
  induction cs with
  | nil => rfl
  | cons c cs ih => rw [classTexts, List.map_cons, ih]

theorem classText_eq (c : ClassModel) :
    classText c = classAround c.comment? c.name (c.classes.map classText) c.properties := by
  cases c
  rw [classText, classTexts_eq_map]
  rfl

theorem writes_comment {margin : String} {d : ℕ}
    (hmargin : margin.toList = List.replicate (4 * d) ' ') (c? : Option String) :
    Writes (comment margin c?) (atLevel d (csharpStyle.comment c?)) := by
  have hmark : Shown "// " := ⟨by decide, '/', rfl, by decide⟩
  exact Layout.writes_comment rfl hmark hmargin rfl
    (fun c => by rw [← String.append_assoc]; rfl) c?

theorem shown_property {p : Property} (hname : Tidy p.name) (htype : Tidy p.type) :
    Shown (csharpStyle.property p) := by
  have hpublic : Shown "public " := ⟨by decide, 'p', rfl, by decide⟩
  exact (((hpublic.append htype.unbroken).append (by decide)).append hname.unbroken).append
    (by decide)

theorem writes_property {p : Property} (hname : Tidy p.name) (htype : Tidy p.type) :
    Writes (property p) (atLevel 1 (csharpStyle.declaration p)) := by
  have hline := writes_line (shown_property hname htype) fourColumns
  have hwrites := (writes_comment (d := 1) fourColumns p.comment?).append hline
  have htext : property p = comment "    " p.comment? ++
      ("    " ++ csharpStyle.property p ++ "\n") := by
    have hmargin : "    public " = "    " ++ "public " := rfl
    have hend : " \x7b get; set; \x7d\n" = " \x7b get; set; \x7d" ++ "\n" := rfl
    simp only [property, csharpStyle, hmargin, hend, String.append_assoc]
  rw [htext, Style.declaration, atLevel, List.map_append]
  exact hwrites

theorem writes_classAround (c? : Option String) {name : String} (hname : Tidy name)
    {nested : List String} {ls : List (List Line)}
    (hnested : Writes (String.join (nested.map fun n => indent 4 n ++ "\n")) ls.flatten)
    {ps : List Property} (hps : ∀ p ∈ ps, Tidy p.name ∧ Tidy p.type) :
    Writes (classAround c? name nested ps) (csharpStyle.around 0 c? name ls ps) := by
  have hopening : Shown ("public class " ++ name) :=
    Shown.append ⟨by decide, 'p', rfl, by decide⟩ hname.unbroken
  have hopen : Shown "\x7b" := ⟨by decide, '\x7b', rfl, by decide⟩
  have hclose : Shown "\x7d" := ⟨by decide, '\x7d', rfl, by decide⟩
  have hproperties := writes_join fun p hp => writes_property (hps p hp).1 (hps p hp).2
  have hclass := writes_line (k := 0) hopening String.toList_empty
  have hbegin := writes_line (k := 0) hopen String.toList_empty
  have hend := writes_line (k := 0) hclose String.toList_empty
  have hwrites := (writes_comment (d := 0) String.toList_empty c?).append
    (hclass.append (hbegin.append (hnested.append (hproperties.append hend))))
  have hbraces : "\n\x7b\n" = "\n" ++ ("\x7b" ++ "\n") := rfl
  have hlast : "\x7d\n" = "\x7d" ++ "\n" := rfl
  have hlines : csharpStyle.around 0 c? name ls ps = atLevel 0 (csharpStyle.comment c?) ++
      ([⟨0, "public class " ++ name⟩] ++ ([⟨0, "\x7b"⟩] ++ (ls.flatten ++
        (csharpStyle.properties 1 ps ++ [⟨0, "\x7d"⟩])))) := by
    simp [Style.around, Style.body, csharpStyle, atLevel]
  rw [hlines, classAround, hbraces, hlast]
  simp only [String.empty_append, String.append_assoc] at hwrites ⊢
  exact hwrites

/-- What is laid out around further classes is the class that holds them. -/
theorem classWith_eq (extra : List ClassModel) (c : ClassModel) :
    classWith extra c = classText (c.holding extra) := by
  cases c
  rfl

/-- What is seen of the text of a class are the lines of the class. -/
theorem writes_classText (c : ClassModel) (h : ∀ d, NestedIn c d → TidyMembers d) :
    Writes (classText c) (csharpStyle.lines 0 c) := by
  induction c using ClassModel.induction with
  | step c ih =>
    have htidy := h c (.itself c)
    have hnested := writes_nested (S := csharpStyle)
      (fun n hn => ih n hn fun d hd => h d (.inside hn hd)) (by simp [csharpStyle])
    rw [classText_eq, Style.lines_eq]
    exact writes_classAround c.comment? htidy.name hnested htidy.properties

end CSharp

/-- A text that is no comment. -/
def isCode (mark text : String) : Bool := !mark.toList.isPrefixOf text.toList

/-- What is seen of a text apart from its comments. -/
def code (mark s : String) : List Line := (written s).filter fun l => isCode mark l.text

theorem isCode_append (mark text : String) : isCode mark (mark ++ text) = false := by
  simp [isCode, List.isPrefixOf_iff_prefix]

theorem isCode_of_head? {mark text : String} {m c : Char} (hmark : mark.toList.head? = some m)
    (htext : text.toList.head? = some c) (hne : c ≠ m) : isCode mark text := by
  obtain ⟨ms, hm⟩ := List.head?_eq_some_iff.mp hmark
  obtain ⟨cs, hc⟩ := List.head?_eq_some_iff.mp htext
  simp [isCode, hm, hc, List.isPrefixOf, hne.symm]

theorem filter_atLevel (mark : String) (d : ℕ) (texts : List String) :
    (atLevel d texts).filter (fun l => isCode mark l.text) =
      atLevel d (texts.filter (isCode mark)) := by
  simp [atLevel, List.filter_map, Function.comp_def]

namespace Style

variable {S : Style} {mark : String}

/-- Only its comments are comments. -/
structure Marks (S : Style) (mark : String) : Prop where
  mark? : S.mark? = some mark
  opening : ∀ name, ∀ text ∈ S.opening name, isCode mark text
  filler : ∀ text ∈ S.filler, isCode mark text
  closing : ∀ text ∈ S.closing, isCode mark text

theorem Marks.filter_comment (h : S.Marks mark) (c? : Option String) :
    (S.comment c?).filter (isCode mark) = [] := by
  cases c? with
  | none => simp [comment_none]
  | some c =>
    rw [comment_some h.mark?]
    split
    · rfl
    · simp [isCode_append]

theorem Marks.filter_properties (h : S.Marks mark) (d : ℕ) {ps : List Property}
    (hps : ∀ p ∈ ps, isCode mark (S.property p)) :
    (S.properties d ps).filter (fun l => isCode mark l.text) = S.bare.properties d ps := by
  induction ps with
  | nil => rfl
  | cons p ps ih =>
    obtain ⟨hp, hrest⟩ := List.forall_mem_cons.mp hps
    have hown : (S.declaration p).filter (isCode mark) = S.bare.declaration p := by
      rw [declaration, List.filter_append, h.filter_comment]
      simp [hp, declaration, comment, bare]
    simp only [properties, List.flatMap_cons, List.filter_append] at ih ⊢
    rw [filter_atLevel, hown, ih hrest]

theorem Marks.filter_around (h : S.Marks mark) (d : ℕ) (c? : Option String) (name : String)
    (nested : List (List Line)) {ps : List Property} (hps : ∀ p ∈ ps, isCode mark (S.property p)) :
    (S.around d c? name nested ps).filter (fun l => isCode mark l.text) =
      S.bare.around d c? name (nested.map (List.filter fun l => isCode mark l.text)) ps := by
  have hall : ∀ {texts : List String}, (∀ text ∈ texts, isCode mark text) →
      (atLevel d texts).filter (fun l => isCode mark l.text) = atLevel d texts := fun htexts => by
    rw [filter_atLevel, List.filter_eq_self.mpr htexts]
  have hfiller : (if nested.isEmpty && ps.isEmpty then atLevel (d + 1) S.filler else []).filter
      (fun l => isCode mark l.text) =
        if nested.isEmpty && ps.isEmpty then atLevel (d + 1) S.filler else [] := by
    split
    · rw [filter_atLevel, List.filter_eq_self.mpr h.filler]
    · rfl
  have hcomment : (atLevel d (S.comment c?)).filter (fun l => isCode mark l.text) =
      atLevel d (S.bare.comment c?) := by
    rw [filter_atLevel, h.filter_comment]
    simp [comment, bare]
  simp only [around, body, List.filter_append, hcomment, hall (h.opening name), hall h.closing,
    h.filter_properties (d + 1) hps, hfiller, List.filter_flatten, List.isEmpty_map]
  rfl

/-- The code of a class are its lines without comments. -/
theorem Marks.filter_lines (h : S.Marks mark) (d : ℕ) (c : ClassModel)
    (hps : ∀ e, NestedIn c e → ∀ p ∈ e.properties, isCode mark (S.property p)) :
    (S.lines d c).filter (fun l => isCode mark l.text) = S.bare.lines d c := by
  induction c using ClassModel.induction generalizing d with
  | step c ih =>
    rw [lines_eq, lines_eq, h.filter_around d _ _ _ (hps c (.itself c)), List.map_map]
    refine congrArg (S.bare.around d c.comment? c.name · c.properties) ?_
    exact List.map_congr_left fun n hn => ih n hn (d + 1) fun e he => hps e (.inside hn he)

end Style

/-- What a class declares: classes with what they declare, and properties as far as a language tells
about them. -/
inductive Member (α : Type) where
  | nested (name : String) (members : List (Member α))
  | property (told : α)

mutual

/-- What there is to read in the text of a class. -/
def outline {α : Type} (told : Property → α) : ClassModel → Member α
  | .mk name ps cs _ => .nested name (outlines told cs ++ ps.map fun p => .property (told p))

def outlines {α : Type} (told : Property → α) : List ClassModel → List (Member α)
  | [] => []
  | c :: cs => outline told c :: outlines told cs

end

/-- The members of a class: the classes nested in it, then its properties. -/
def members {α : Type} (told : Property → α) (c : ClassModel) : List (Member α) :=
  c.classes.map (outline told) ++ c.properties.map fun p => .property (told p)

theorem outline_eq {α : Type} (told : Property → α) (c : ClassModel) :
    outline told c = .nested c.name (members told c) := by
  have hall : ∀ cs : List ClassModel, outlines told cs = cs.map (outline told) := by
    intro cs
    induction cs with
    | nil => rfl
    | cons c cs ih => rw [outlines, List.map_cons, ih]
  cases c
  rw [outline, hall]
  rfl

/-- What is read of classes depends only on what is told about their properties. -/
theorem outline_congr {α : Type} {told told' : Property → α} {c : ClassModel}
    (h : ∀ d, NestedIn c d → ∀ p ∈ d.properties, told p = told' p) :
    outline told c = outline told' c := by
  induction c using ClassModel.induction with
  | step c ih =>
    have hnested : c.classes.map (outline told) = c.classes.map (outline told') :=
      List.map_congr_left fun n hn => ih n hn fun d hd => h d (.inside hn hd)
    have hproperties : (c.properties.map fun p => Member.property (told p)) =
        c.properties.map fun p => Member.property (told' p) :=
      List.map_congr_left fun p hp => congrArg _ (h c (.itself c) p hp)
    rw [outline_eq, outline_eq, members, members, hnested, hproperties]

theorem dropPrefix?_append (front back : List Char) :
    (front ++ back).dropPrefix? front = some back :=
  List.dropPrefix?_append_of_beq back (beq_self_eq_true front)

end Layout

end OperationClasses
