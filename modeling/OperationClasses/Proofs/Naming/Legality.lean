import OperationClasses.Proofs.Naming.Annotations
import OperationClasses.Proofs.Naming.Twins
import OperationClasses.Proofs.Naming.Words

/-!
# Legal identifiers

Escaping a name makes it an identifier of the language, or so it should. Python drops the leading
underscores of a name before it puts one at the end, so what comes out begins with whatever stood
behind them. In C# every escaped name is legal, but an escaped name behind other words is not when
escaping has put an at sign in front of it.
-/
namespace OperationClasses

open Syntax Text Naming Response

/-- A name that is not a keyword. -/
def IsPythonIdentifier (s : String) : Prop := isName s ∧ s ∉ PythonModule.keywords

/-- A name, perhaps behind an at sign. -/
def IsCSharpIdentifier (s : String) : Prop := isName s ∨ ∃ name, isName name ∧ s = "@" ++ name

instance (s : String) : Decidable (IsPythonIdentifier s) := inferInstanceAs (Decidable (_ ∧ _))

namespace Target

/-- A built-in target accepts an identifier. -/
structure Accepts (t : Target) (s : String) : Prop where
  csharp : t = .csharp → IsCSharpIdentifier s
  python : t = .python → IsPythonIdentifier s

/-- A built-in target accepts the name of a property, which must not look private in Python. -/
structure AcceptsProperty (t : Target) (s : String) : Prop extends Accepts t s where
  visible : t = .python → s.toList.head? ≠ some '_'

theorem csharp_ne_python : csharp ≠ python := fun h => absurd (congrArg Target.name h) (by decide)

theorem accepts_csharp_iff {s : String} : csharp.Accepts s ↔ IsCSharpIdentifier s :=
  ⟨fun h => h.csharp rfl, fun h => ⟨fun _ => h, fun heq => absurd heq csharp_ne_python⟩⟩

theorem accepts_python_iff {s : String} : python.Accepts s ↔ IsPythonIdentifier s :=
  ⟨fun h => h.python rfl, fun h => ⟨fun heq => absurd heq.symm csharp_ne_python, fun _ => h⟩⟩

end Target

theorem plain_of_isName {s : String} (h : isName s) : Plain s.toList :=
  fun _ hc => isNamePart_of_mem h hc

theorem isName_iff_head {s : String} (h : Plain s.toList) :
    isName s ↔ ∃ c, s.toList.head? = some c ∧ isNameStart c := by
  cases hs : s.toList with
  | nil => simp [isName, hs]
  | cons c rest =>
    have hrest : rest.all isNamePart := by
      rw [List.all_eq_true]
      exact fun d hd => h d (by simp [hs, hd])
    rw [isName, hs]
    simp [hrest]

theorem isName_append {a b : String} (ha : a ≠ "") :
    isName (a ++ b) ↔ isName a ∧ Plain b.toList := by
  cases hs : a.toList with
  | nil => exact absurd (String.toList_eq_nil_iff.mp hs) ha
  | cons c rest =>
    simp only [isName, String.toList_append, hs, List.cons_append, List.all_append,
      Bool.and_eq_true, List.all_eq_true, and_assoc]

theorem isName_append_underscore {s : String} : isName (s ++ "_") ↔ isName s ∨ s = "" := by
  by_cases hs : s = ""
  · subst hs
    simp only [or_true, iff_true]
    decide
  · have hmark : Plain "_".toList := List.all_eq_true.mp (by decide)
    rw [isName_append hs, and_iff_left hmark, or_iff_left hs]

theorem stem_of_head?_ne {name : String} (h : name.toList.head? ≠ some '_') : stem name = name := by
  rw [stem]
  cases hname : name.toList with
  | nil => rw [List.dropWhile_nil, ← hname, String.ofList_toList]
  | cons c rest =>
    have hc : c ≠ '_' := by simpa [hname] using h
    rw [List.dropWhile_cons, if_neg (by simpa using hc), ← hname, String.ofList_toList]

theorem head?_stem (name : String) :
    (stem name).toList.head? = (name.toList.filter (· ≠ '_')).head? := by
  rw [stem, String.toList_ofList, List.head?_filter, List.find?_eq_head?_dropWhile_not]
  simp

theorem head?_stem_ne (name : String) : (stem name).toList.head? ≠ some '_' := by
  rw [head?_stem, List.head?_filter]
  intro h
  simpa using List.find?_some h

theorem plain_stem {name : String} (h : Plain name.toList) : Plain (stem name).toList := by
  intro c hc
  rw [stem, String.toList_ofList] at hc
  exact h c ((List.dropWhile_suffix _).subset hc)

/-- The Pascal form of a name is a name exactly if a letter follows its leading underscores. -/
theorem isName_pascalCase_iff {name : String} (h : isName name) :
    isName (pascalCase name) ↔ isName (stem name) := by
  have hplain := plain_of_isName h
  have hstart : ∀ c, isNamePart c → (isNameStart c.toLower ↔ isNameStart c) := fun c hc =>
    forall_ascii (P := fun c => isNameStart c.toLower ↔ isNameStart c) (by decide)
      (toNat_lt_of_isNamePart hc)
  have hlower : (pascalCase name).toList.head?.map Char.toLower =
      (stem name).toList.head?.map Char.toLower := by
    rw [head?_stem, ← List.head?_map, ← List.head?_map, pascalCase, String.toList_ofList,
      map_toLower_pascalChars hplain]
  have hpart : ∀ {s : String}, Plain s.toList →
      (isName s ↔ ∃ c, s.toList.head?.map Char.toLower = some c ∧ isNameStart c) := by
    intro s hs
    rw [isName_iff_head hs]
    simp only [Option.map_eq_some_iff]
    constructor
    · rintro ⟨c, hc, hname⟩
      exact ⟨_, ⟨c, hc, rfl⟩, (hstart c (hs c (List.mem_of_mem_head? hc))).mpr hname⟩
    · rintro ⟨_, ⟨c, hc, rfl⟩, hname⟩
      exact ⟨c, hc, (hstart c (hs c (List.mem_of_mem_head? hc))).mp hname⟩
  rw [hpart (plain_pascalCase h), hpart (plain_stem hplain), hlower]

/-- No keyword begins with an underscore, or ends with one or with a digit. -/
theorem keywords_ends : ∀ word ∈ PythonModule.keywords, isName word ∧
    word.toList.head? ≠ some '_' ∧ ∀ c ∈ word.toList.getLast?, c ≠ '_' ∧ ¬ c.isDigit := by
  have hword : ∀ word ∈ PythonModule.keywords, isName word ∧ word.toList.head? ≠ some '_' ∧
      word.toList.getLast?.all fun c => c ≠ '_' ∧ ¬ c.isDigit := by
    decide
  simpa only [Option.all_eq_true, decide_eq_true_eq, Option.mem_def] using hword

variable {r : Resolver}

theorem escape_python_not_keyword (hr : r.IsDefault) (htarget : r.target = .python)
    (name : String) : r.escape name ∉ PythonModule.keywords := by
  rw [escape_python hr htarget]
  split
  · intro hword
    exact ((keywords_ends _ hword).2.2 '_' (by simp)).1 rfl
  · next hmoved => exact fun hword => hmoved (.inl hword)

/-- A name that Python escapes is legal unless a digit follows its leading underscores. -/
theorem isPythonIdentifier_escape (hr : r.IsDefault) (htarget : r.target = .python)
    {name : String} (hne : name ≠ "") :
    IsPythonIdentifier (r.escape name) ↔ isName (stem name) ∨ stem name = "" := by
  have hword := escape_python_not_keyword hr htarget name
  rw [IsPythonIdentifier, and_iff_left hword, escape_python hr htarget]
  split
  · exact isName_append_underscore
  · next hmoved =>
    have hstem : stem name = name := stem_of_head?_ne fun hhead => hmoved (.inr hhead)
    simp [hstem, hne]

/-- The name of a property is visible exactly if something follows its leading underscores. -/
theorem head?_escape_python (hr : r.IsDefault) (htarget : r.target = .python) {name : String}
    (hne : name ≠ "") : (r.escape name).toList.head? ≠ some '_' ↔ stem name ≠ "" := by
  rw [escape_python hr htarget]
  split
  · by_cases hstem : stem name = ""
    · simp [hstem]
    · have hhead := head?_stem_ne name
      rw [String.toList_append, List.head?_append_of_ne_nil _ (by simpa using hstem)]
      exact ⟨fun _ => hstem, fun _ => hhead⟩
  · next hmoved =>
    have hhead : name.toList.head? ≠ some '_' := fun h => hmoved (.inr h)
    simp [stem_of_head?_ne hhead, hne, hhead]

theorem at_toList : "@".toList = ['@'] := rfl

theorem plain_ne_at {s : String} (h : Plain s.toList) (name : String) : s ≠ "@" ++ name := by
  rintro rfl
  exact absurd (h '@' (by simp)) (by decide)

/-- What C# escapes is legal exactly if it was a name. -/
theorem isCSharpIdentifier_escape (hr : r.IsDefault) (htarget : r.target = .csharp)
    {name : String} (hplain : Plain name.toList) :
    IsCSharpIdentifier (r.escape name) ↔ isName name := by
  have hreserved : ∀ word ∈ Target.csharp.reservedWords, isName word := by decide
  rw [escape_csharp hr htarget]
  split
  · next hmem => exact ⟨fun _ => hreserved name hmem, fun hname => .inr ⟨name, hname, rfl⟩⟩
  · constructor
    · rintro (hname | ⟨word, -, heq⟩)
      · exact hname
      · exact absurd heq (plain_ne_at hplain word)
    · exact .inl

/-- When an escaped name is legal: in C# when it was a name, in Python unless a digit follows its
leading underscores. -/
structure Target.Keeps (t : Target) (name : String) : Prop where
  csharp : t = .csharp → isName name
  python : t = .python → name ≠ "" ∧ (isName (stem name) ∨ stem name = "")

theorem accepts_escape (hr : r.IsDefault) {name : String} (hplain : Plain name.toList) :
    r.target.Accepts (r.escape name) ↔ r.target.Keeps name := by
  rcases hr.builtIn with htarget | htarget
  · rw [htarget, Target.accepts_csharp_iff, isCSharpIdentifier_escape hr htarget hplain]
    exact ⟨fun h => ⟨fun _ => h, fun heq => absurd heq Target.csharp_ne_python⟩,
      fun h => h.csharp rfl⟩
  · rw [htarget, Target.accepts_python_iff]
    by_cases hne : name = ""
    · subst hne
      rw [escape_empty hr]
      exact ⟨fun h => absurd h (by decide), fun h => absurd rfl (h.python rfl).1⟩
    · rw [isPythonIdentifier_escape hr htarget hne]
      exact ⟨fun h => ⟨fun heq => absurd heq.symm Target.csharp_ne_python, fun _ => ⟨hne, h⟩⟩,
        fun h => (h.python rfl).2⟩

/-- A property is legal in C# always, in Python exactly if a letter follows the leading underscores
of the name it stands for. -/
theorem acceptsProperty_escape (hr : r.IsDefault) {name : String} (hname : isName name) :
    r.target.AcceptsProperty (r.escape name) ↔ (r.target = .python → isName (stem name)) := by
  have haccepts := accepts_escape hr (plain_of_isName hname)
  have hne := ne_empty_of_isName hname
  constructor
  · intro h htarget
    have hvisible := (head?_escape_python hr htarget hne).mp (h.visible htarget)
    exact ((haccepts.mp h.toAccepts).python htarget).2.resolve_right hvisible
  · intro h
    refine ⟨haccepts.mpr ⟨fun _ => hname, fun htarget => ⟨hne, .inl (h htarget)⟩⟩, ?_⟩
    exact fun htarget => (head?_escape_python hr htarget hne).mpr (ne_empty_of_isName (h htarget))

/-- A number is written with one digit at least, and with digits only. -/
theorem exists_toString_cons (n : ℕ) :
    ∃ c rest, (toString n).toList = c :: rest ∧ ∀ d ∈ c :: rest, d.isDigit := by
  have hdigits : ∀ c ∈ (toString n).toList, c.isDigit := by
    intro c hc
    rw [Nat.toString_eq_repr, Nat.toList_repr] at hc
    exact Nat.isDigit_of_mem_toDigits (by decide) (by decide) hc
  have hne : (toString n).toList ≠ [] := by
    rw [Nat.toString_eq_repr, Nat.toList_repr]
    exact Nat.toDigits_ne_nil
  obtain ⟨c, rest, hs⟩ := List.exists_cons_of_ne_nil hne
  exact ⟨c, rest, hs, fun d hd => hdigits d (hs ▸ hd)⟩

theorem not_isNameStart_of_isDigit {c : Char} (h : c.isDigit) : ¬ isNameStart c :=
  forall_ascii (P := fun c => c.isDigit → ¬ isNameStart c) (by decide)
    (toNat_lt_of_isNamePart (isNamePart_of_isDigit h)) h

/-- A number behind a text does not make it a name, nor does it spoil one. -/
theorem isName_append_toString {s : String} (n : ℕ) : isName (s ++ toString n) ↔ isName s := by
  obtain ⟨c, rest, hn, hdigits⟩ := exists_toString_cons n
  by_cases hs : s = ""
  · subst hs
    have hstart := not_isNameStart_of_isDigit (hdigits c (by simp))
    rw [String.empty_append, isName, hn]
    simp only [hstart, Bool.false_and, Bool.false_eq_true, false_iff]
    decide
  · have hplain : Plain (c :: rest) := fun d hd => isNamePart_of_isDigit (hdigits d hd)
    rw [isName_append hs, hn, and_iff_left hplain]

theorem isCSharpIdentifier_append_toString {s : String} (n : ℕ) :
    IsCSharpIdentifier (s ++ toString n) ↔ IsCSharpIdentifier s := by
  refine or_congr (isName_append_toString n) ⟨?_, ?_⟩
  · rintro ⟨word, hword, heq⟩
    have hchars := congrArg String.toList heq
    rw [String.toList_append, String.toList_append, at_toList, List.singleton_append] at hchars
    cases hs : s.toList with
    | nil =>
      obtain ⟨d, more, hn, hdigits⟩ := exists_toString_cons n
      rw [hs, hn, List.nil_append] at hchars
      have hdigit := hdigits d (by simp)
      rw [(List.cons.inj hchars).1] at hdigit
      exact absurd hdigit (by decide)
    | cons c rest =>
      rw [hs, List.cons_append] at hchars
      obtain ⟨hc, hrest⟩ := List.cons.inj hchars
      have hword' : word = String.ofList rest ++ toString n := by
        rw [← String.toList_inj, String.toList_append, String.toList_ofList]
        exact hrest.symm
      refine ⟨String.ofList rest, (isName_append_toString n).mp (hword' ▸ hword), ?_⟩
      rw [← String.toList_inj, hs, String.toList_append, at_toList, String.toList_ofList, hc]
      rfl
  · rintro ⟨word, hword, rfl⟩
    exact ⟨word ++ toString n, (isName_append_toString n).mpr hword, by rw [String.append_assoc]⟩

theorem isPythonIdentifier_append_toString {s : String} (hs : s ∉ PythonModule.keywords) (n : ℕ) :
    IsPythonIdentifier (s ++ toString n) ↔ IsPythonIdentifier s := by
  have hword : s ++ toString n ∉ PythonModule.keywords := by
    intro hmem
    obtain ⟨c, rest, hn, hdigits⟩ := exists_toString_cons n
    have hlast : (s ++ toString n).toList.getLast? = (c :: rest).getLast? := by
      rw [String.toList_append, hn, List.getLast?_append_cons]
    have hsome := List.getLast?_eq_some_getLast (List.cons_ne_nil c rest)
    exact ((keywords_ends _ hmem).2.2 _ (hlast.trans hsome)).2 (hdigits _ (List.getLast_mem _))
  rw [IsPythonIdentifier, IsPythonIdentifier, isName_append_toString, and_iff_left hword,
    and_iff_left hs]

theorem accepts_numbered (hr : r.IsDefault) {name : String} (hplain : Plain name.toList) (n : ℕ) :
    r.target.Accepts (r.escape name ++ toString n) ↔ r.target.Keeps name := by
  rw [← accepts_escape hr hplain]
  rcases hr.builtIn with htarget | htarget <;> rw [htarget]
  · rw [Target.accepts_csharp_iff, Target.accepts_csharp_iff, isCSharpIdentifier_append_toString]
  · rw [Target.accepts_python_iff, Target.accepts_python_iff,
      isPythonIdentifier_append_toString (escape_python_not_keyword hr htarget name)]

/-- When an escaped name behind the words of a response key is legal: when these begin with a
letter, and escaping has put no at sign between the two, nor have they become a keyword. -/
structure Target.KeepsBehind (t : Target) (key name identifier : String) : Prop where
  key : isName (stem key)
  csharp : t = .csharp → name ∉ csharp.reservedWords
  python : t = .python → identifier ∉ PythonModule.keywords

theorem plain_escape_csharp_iff (hr : r.IsDefault) (htarget : r.target = .csharp) {name : String}
    (hplain : Plain name.toList) :
    Plain (r.escape name).toList ↔ name ∉ Target.csharp.reservedWords := by
  rw [escape_csharp hr htarget]
  split
  · next hmem =>
    refine ⟨fun h => absurd (h '@' (by simp)) (by decide), fun h => absurd hmem h⟩
  · next hmem => exact ⟨fun _ => hmem, fun _ => hplain⟩

theorem accepts_prefixed (hr : r.IsDefault) {key name : String} (hkey : isName key)
    (hplain : Plain name.toList) (hne : pascalCase key ≠ "") :
    r.target.Accepts (pascalCase key ++ r.escape name) ↔
      r.target.KeepsBehind key name (pascalCase key ++ r.escape name) := by
  rcases hr.builtIn with htarget | htarget <;> rw [htarget]
  · have hsign : ∀ word, pascalCase key ++ r.escape name ≠ "@" ++ word := by
      intro word heq
      have hchars := congrArg String.toList heq
      rw [String.toList_append, String.toList_append, at_toList, List.singleton_append] at hchars
      obtain ⟨c, rest, hs⟩ := List.exists_cons_of_ne_nil (mt String.toList_eq_nil_iff.mp hne)
      rw [hs, List.cons_append] at hchars
      have hpart := plain_pascalCase hkey c (by simp [hs])
      rw [(List.cons.inj hchars).1] at hpart
      exact absurd hpart (by decide)
    have hlegal : IsCSharpIdentifier (pascalCase key ++ r.escape name) ↔
        isName (stem key) ∧ name ∉ Target.csharp.reservedWords := by
      rw [IsCSharpIdentifier, or_iff_left fun ⟨word, _, heq⟩ => hsign word heq, isName_append hne,
        isName_pascalCase_iff hkey, plain_escape_csharp_iff hr htarget hplain]
    rw [Target.accepts_csharp_iff, hlegal]
    exact ⟨fun h => ⟨h.1, fun _ => h.2, fun heq => absurd heq Target.csharp_ne_python⟩,
      fun h => ⟨h.key, h.csharp rfl⟩⟩
  · have hescaped := plain_escape htarget hplain
    have hlegal : IsPythonIdentifier (pascalCase key ++ r.escape name) ↔
        isName (stem key) ∧ pascalCase key ++ r.escape name ∉ PythonModule.keywords := by
      rw [IsPythonIdentifier, isName_append hne, isName_pascalCase_iff hkey, and_iff_left hescaped]
    rw [Target.accepts_python_iff, hlegal]
    exact ⟨fun h => ⟨h.1, fun heq => absurd heq.symm Target.csharp_ne_python, fun _ => h.2⟩,
      fun h => ⟨h.key, h.python rfl⟩⟩

end OperationClasses
