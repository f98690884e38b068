import OperationClasses.Proofs.Layout.Braces
import OperationClasses.Proofs.Layout.Indentation

/-!
# Reading classes back

A tree of classes can be read back from its text: by indentation from a text of Python, by braces
from one of C#, and its comments do not matter. A few names and types have to be left out, which are
no identifiers and no annotations: with these, different trees have one text.
-/
namespace OperationClasses

mutual

/-- The same class, with no comment on it or in it. -/
def ClassModel.uncommented : ClassModel → ClassModel
  | mk name ps cs _ =>
    mk name (ps.map fun p => { p with comment? := none }) (ClassModel.uncommentedAll cs) none

def ClassModel.uncommentedAll : List ClassModel → List ClassModel
  | [] => []
  | c :: cs => c.uncommented :: ClassModel.uncommentedAll cs

end

theorem ClassModel.uncommented_eq (c : ClassModel) : c.uncommented =
    mk c.name (c.properties.map fun p => { p with comment? := none })
      (c.classes.map ClassModel.uncommented) none := by
  have hall : ∀ cs, ClassModel.uncommentedAll cs = cs.map ClassModel.uncommented := by
    intro cs
    induction cs with
    | nil => rfl
    | cons c cs ih => rw [uncommentedAll, List.map_cons, ih]
  cases c
  rw [uncommented, hall]
  rfl

namespace Layout

open Text Response

/-- What there is to read in a class has nothing to do with its comments. -/
theorem outline_uncommented {α : Type} {told : Property → α}
    (htold : ∀ p : Property, told { p with comment? := none } = told p) (c : ClassModel) :
    outline told c.uncommented = outline told c := by
  induction c using ClassModel.induction with
  | step c ih =>
    have hnested : (c.classes.map ClassModel.uncommented).map (outline told) =
        c.classes.map (outline told) := by
      rw [List.map_map]
      exact List.map_congr_left ih
    rw [ClassModel.uncommented_eq, outline_eq, outline_eq, members, members]
    simp [hnested, htold, Function.comp_def]

namespace Python

/-- What stands under the line that opens a class at a level of nesting. Only a class at the level
of the module has its own annotations in quotes. -/
def bodyOf (quoted : Bool) (d : ℕ) (c : ClassModel) : List Line :=
  (pythonStyle (quoted && d == 0)).body (d + 1) (c.classes.map ((pythonStyle false).lines (d + 1)))
    c.properties

/-- A class is laid out among lines at a level of nesting: its body follows the line that opens it,
stands further to the right, and is not empty. -/
structure LaidOut (ls : List Line) (quoted : Bool) (d : ℕ) (c : ClassModel) : Prop where
  together : openingLine d c.name :: bodyOf quoted d c <:+: ls
  right : ∀ l ∈ bodyOf quoted d c, 4 * (d + 1) ≤ l.indentation
  nonempty : bodyOf quoted d c ≠ []

/-- The line that opens a class and its body stand together in the lines of the class. -/
theorem opening_body_infix_around (quoted : Bool) (d : ℕ) (c? : Option String) (name : String)
    (nested : List (List Line)) (ps : List Property) :
    openingLine d name :: (pythonStyle quoted).body (d + 1) nested ps <:+:
      (pythonStyle quoted).around d c? name nested ps :=
  ⟨atLevel d ((pythonStyle quoted).comment c?), [], by
    simp [Style.around, pythonStyle, atLevel, openingLine]⟩

theorem opening_bodyOf_infix {quoted : Bool} {c e : ClassModel} {k : ℕ} (h : StandsAt c k e) :
    openingLine k e.name :: bodyOf quoted k e <:+:
      (pythonStyle quoted).around 0 c.comment? c.name (c.classes.map ((pythonStyle false).lines 1))
        c.properties := by
  cases h with
  | itself =>
    rw [bodyOf, beq_self_eq_true, Bool.and_true]
    exact opening_body_infix_around quoted 0 ..
  | @inside _ n _ d hn hstands =>
    have hbody : bodyOf quoted (d + 1) e = (pythonStyle false).body (d + 1 + 1)
        (e.classes.map ((pythonStyle false).lines (d + 1 + 1))) e.properties := by
      rw [bodyOf, beq_false_of_ne (Nat.succ_ne_zero d), Bool.and_false]
    have hown : openingLine (d + 1) e.name :: bodyOf quoted (d + 1) e <:+:
        (pythonStyle false).lines (1 + d) e := by
      rw [hbody, Style.lines_eq, Nat.add_comm 1 d]
      exact opening_body_infix_around false (d + 1) ..
    exact ((hown.trans (hstands.lines_infix _ 1)).trans (lines_infix_flatten hn _ 1)).trans
      (flatten_infix_around ..)

/-- Every class in a tidy class is laid out in its text at its depth. -/
theorem laidOut_rendered (quoted : Bool) {c e : ClassModel}
    (h : ∀ d, NestedIn c d → TidyMembers d) {k : ℕ} (hstands : StandsAt c k e) :
    LaidOut (written (rendered quoted c)) quoted k e where
  together := by
    rw [written_rendered quoted h]
    exact opening_bodyOf_infix hstands
  right l hl := by
    refine Style.four_mul_le_of_mem_body (fun ls hls => ?_) hl
    obtain ⟨n, -, rfl⟩ := List.mem_map.mp hls
    exact Style.four_mul_le_of_mem_lines _ _ n
  nonempty := by
    refine Style.body_ne_nil (List.cons_ne_nil _ _) _ (fun ls hls => ?_) _
    obtain ⟨n, -, rfl⟩ := List.mem_map.mp hls
    rw [Style.lines_eq]
    simp [Style.around, pythonStyle, atLevel]

end Python

/-- In a text of Python every class is laid out at its depth, and reading by indentation gives back
the classes and the properties, the annotations of the outermost class in quotes or not. In a text
of C# the braces are balanced, and reading by braces gives them back. What is read of two classes
that differ in comments only is the same. -/
theorem classTrees_readBack (c : ClassModel) (extra : List ClassModel) :
    (∀ quoted, (∀ d, NestedIn c d → TidyMembers d) → ∀ k e, StandsAt c k e →
      Python.LaidOut (written (Python.rendered quoted c)) quoted k e) ∧
    (∀ quoted, Python.Legible quoted c →
      Python.read? quoted (Python.rendered quoted c) = some (outline Python.told c) ∧
      ∀ c', Python.Legible quoted c' → c'.uncommented = c.uncommented →
        Python.read? quoted (Python.rendered quoted c') =
          Python.read? quoted (Python.rendered quoted c)) ∧
    ((∀ d, NestedIn (c.holding extra) d → CSharp.BracelessMembers d) →
      Balanced (CSharp.chars (code "// " (CSharp.classWith extra c)))) ∧
    (CSharp.Legible (c.holding extra) →
      CSharp.read? (CSharp.classWith extra c) = some (outline CSharp.told (c.holding extra)) ∧
      ∀ c' extra', CSharp.Legible (c'.holding extra') →
        (c'.holding extra').uncommented = (c.holding extra).uncommented →
        CSharp.read? (CSharp.classWith extra' c') = CSharp.read? (CSharp.classWith extra c)) := by
  have hread : ∀ c extra, CSharp.Legible (c.holding extra) →
      CSharp.read? (CSharp.classWith extra c) = some (outline CSharp.told (c.holding extra)) := by
    intro c extra h
    rw [CSharp.classWith_eq]
    exact CSharp.read?_classText h
  refine ⟨fun quoted h _ _ => Python.laidOut_rendered quoted h, fun quoted h => ?_, fun h => ?_,
    fun h => ⟨hread c extra h, fun c' extra' h' heq => ?_⟩⟩
  · refine ⟨Python.read?_rendered h, fun c' h' heq => ?_⟩
    have hpython : ∀ p : Property, Python.told { p with comment? := none } = Python.told p :=
      fun _ => rfl
    rw [Python.read?_rendered h', Python.read?_rendered h, ← outline_uncommented hpython, heq,
      outline_uncommented hpython]
  · obtain ⟨b, hb, -⟩ := CSharp.exists_braced?_classText h
    rw [CSharp.classWith_eq]
    exact balanced_of_braced? hb
  · have hcsharp : ∀ p : Property, CSharp.told { p with comment? := none } = CSharp.told p :=
      fun _ => rfl
    rw [hread c' extra' h', hread c extra h, ← outline_uncommented hcsharp, heq,
      outline_uncommented hcsharp]

/-- A class with nested classes, an alias, a default and some comments. -/
def shelf (c? : Option String) : ClassModel :=
  .mk "Shelf" [⟨"class_", "Optional[str]", "class", false, none⟩,
      ⟨"owner", "Owner", "owner", true, c?⟩]
    [.mk "Owner" [⟨"name", "str", "name", true, none⟩] [.mk "Address" [] [] c?] none] none

def shelfFilter : ClassModel := .flat "Filter" [⟨"first", "int", "first", true, none⟩]

theorem classTrees_readBack_shelf :
    Python.LaidOut (written (Python.rendered true (shelf none))) true 2
      (.mk "Address" [] [] none) ∧
    Python.read? true (Python.rendered true (shelf none)) =
      some (outline Python.told (shelf none)) ∧
    Python.read? true (Python.rendered true (shelf (some "no type"))) =
      Python.read? true (Python.rendered true (shelf none)) ∧
    Balanced (CSharp.chars (code "// " (CSharp.classWith [shelfFilter] (shelf none)))) ∧
    CSharp.read? (CSharp.classWith [shelfFilter] (shelf none)) =
      some (outline CSharp.told ((shelf none).holding [shelfFilter])) ∧
    CSharp.read? (CSharp.classWith [shelfFilter] (shelf (some "no type"))) =
      CSharp.read? (CSharp.classWith [shelfFilter] (shelf none)) := by
  have hpython : ∀ c? ∈ [none, some "no type"], Python.Legible true (shelf c?) := by
    have hnested : ∀ c? ∈ [none, some "no type"], ∀ d, NestedIn (shelf c?) d →
        TidyMembers d ∧ ∀ p ∈ d.properties, Python.Declarable false p := by
      decide +kernel
    have hown : ∀ c? ∈ [none, some "no type"], ∀ p ∈ (shelf c?).properties,
        Python.Declarable true p := by
      decide +kernel
    exact fun c? hc => ⟨fun d hd => (hnested c? hc d hd).1, hown c? hc,
      fun n hn d hd => (hnested c? hc d (.inside hn hd)).2⟩
  have hcsharp : ∀ c? ∈ [none, some "no type"],
      CSharp.Legible ((shelf c?).holding [shelfFilter]) := by
    have hnested : ∀ c? ∈ [none, some "no type"],
        ∀ d, NestedIn ((shelf c?).holding [shelfFilter]) d →
          CSharp.BracelessMembers d ∧ ∀ p ∈ d.properties, ' ' ∉ p.name.toList := by
      decide +kernel
    exact fun c? hc => ⟨fun d hd => (hnested c? hc d hd).1, fun d hd => (hnested c? hc d hd).2⟩
  obtain ⟨hlaidOut, hpythonRead, hbalanced, hcsharpRead⟩ :=
    classTrees_readBack (shelf none) [shelfFilter]
  refine ⟨?_, ?_, ?_, hbalanced (hcsharp none (by decide)).members, ?_, ?_⟩
  · exact hlaidOut true (hpython none (by decide)).tidy 2 _
      (.inside (List.mem_singleton_self _) (.inside (List.mem_singleton_self _) (.itself _)))
  · exact (hpythonRead true (hpython none (by decide))).1
  · exact (hpythonRead true (hpython none (by decide))).2 _ (hpython _ (by decide)) rfl
  · exact (hcsharpRead (hcsharp none (by decide))).1
  · exact (hcsharpRead (hcsharp none (by decide))).2 _ [shelfFilter] (hcsharp _ (by decide)) rfl

/-- Two classes declare different things in one text, although their names, types and names in the
schema are tidy and without braces. -/
structure Ambiguous {α : Type} (text : ClassModel → String) (told : Property → α)
    (c c' : ClassModel) : Prop where
  tidy : ∀ e ∈ [c, c'], ∀ d, NestedIn e d → CSharp.BracelessMembers d ∧
    ∀ p ∈ d.properties, Tidy p.graphqlName
  text : text c = text c'
  outline : outline told c ≠ outline told c'

/-- A type may end like a default or an alias, a name may end before its end or look like a comment,
and a type may go on in a name. -/
theorem ambiguous_texts :
    Ambiguous Python.classText Python.told
      (.flat "A" [⟨"b", "Optional[int] = None", "b", true, none⟩])
      (.flat "A" [⟨"b", "Optional[int]", "b", false, none⟩]) ∧
    Ambiguous Python.classText Python.told
      (.flat "A" [⟨"b", "int = Field(alias='c')", "b", true, none⟩])
      (.flat "A" [⟨"b", "int", "c", true, none⟩]) ∧
    Ambiguous Python.classText Python.told
      (.flat "A" [⟨"a: b", "int", "a: b", true, none⟩])
      (.flat "A" [⟨"a", "b: int", "a", true, none⟩]) ∧
    Ambiguous Python.classText Python.told
      (.flat "A" [⟨"# a", "int", "# a", true, none⟩, ⟨"b", "int", "b", true, none⟩])
      (.flat "A" [⟨"b", "int", "b", true, some "a: int"⟩]) ∧
    Ambiguous CSharp.classText CSharp.told
      (.flat "A" [⟨"a b", "int", "a b", true, none⟩])
      (.flat "A" [⟨"b", "int a", "b", true, none⟩]) := by
  refine ⟨⟨by decide +kernel, by decide +kernel, ?_⟩, ⟨by decide +kernel, by decide +kernel, ?_⟩,
    ⟨by decide +kernel, by decide +kernel, ?_⟩, ⟨by decide +kernel, by decide +kernel, ?_⟩,
    ⟨by decide +kernel, by decide +kernel, ?_⟩⟩
  all_goals simp [outline_eq, members, ClassModel.flat, Python.told, CSharp.told]

end Layout

end OperationClasses
