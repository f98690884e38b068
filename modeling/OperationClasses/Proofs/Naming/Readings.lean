import OperationClasses.Proofs.Naming.Annotations
import OperationClasses.Proofs.Naming.Twins

/-!
# What annotations read

With the overrides and the reserved words that come with Python, which identifiers an annotation
reads can be told from the type reference: the words for lists and for values that may be missing,
and the one name that the reference is spelled around.
-/
namespace OperationClasses

open Syntax

/-- A resolver for Python with all that comes with it. -/
structure Resolver.IsDefaultPython (r : Resolver) : Prop extends r.IsPython, r.IsDefault

/-- The name that a type is spelled as, before it is escaped. -/
def Resolver.coreName (r : Resolver) (name : String) : String :=
  match r.overrides.lookup name with
  | some spelled => spelled
  | none => if r.keepsName name then name else "Any"

/-- The names that are read where a reference is spelled, before they are escaped. -/
def namesRead (r : Resolver) : TypeRef → List String
  | .named none => []
  | .named (some name) =>
    if r.coreName name = "Any" then ["Any"] else ["Optional", r.coreName name]
  | .list e => "Optional" :: "List" :: namesRead r e
  | .nonNull (.named (some name)) => [r.coreName name]
  | .nonNull (.list e) => "List" :: namesRead r e
  | .nonNull _ => []
  | .misnamed _ => []
  | .tableNamed _ => []
  | .other _ => []

variable {r : Resolver} {name : String}

theorem mem_identifiers_iff {text word : String} (hplain : Plain text.toList) (hne : text ≠ "") :
    word ∈ identifiers text ↔ word = text := by
  refine ⟨eq_of_mem_identifiers hplain, ?_⟩
  rintro rfl
  rw [identifiers, List.splitOnP_eq_singleton (by simpa using hplain)]
  simpa using hne

theorem escape_of_not_isMoved (hr : r.IsDefaultPython) (h : ¬ IsMoved name) :
    r.escape name = name := by
  rw [escape_python hr.toIsDefault hr.target, if_neg h]

theorem mem_identifiers_escape (hr : r.IsDefaultPython) (h : isName name) {word : String} :
    word ∈ identifiers (r.escape name) ↔ word = r.escape name := by
  refine mem_identifiers_iff (plain_escape hr.target fun _ hc => isNamePart_of_mem h hc) ?_
  rw [escape_python hr.toIsDefault hr.target]
  split
  · simp
  · exact ne_empty_of_isName h

theorem isName_coreName (hr : r.IsDefaultPython) (h : isName name) : isName (r.coreName name) := by
  have htable : ∀ entry ∈ Target.python.overrides, isName entry.2 := by decide
  unfold Resolver.coreName
  split
  · next spelled hlookup =>
    rw [hr.overrides] at hlookup
    obtain ⟨_, _, hsplit, -⟩ := List.lookup_eq_some_iff.mp hlookup
    exact htable (name, spelled) (by simp [hsplit])
  · split
    · exact h
    · decide

/-- A type is spelled as its core name. -/
theorem escape_coreName (hr : r.IsDefaultPython) (name : String) :
    r.escape (r.coreName name) = r.spellName none name := by
  have htable : ∀ entry ∈ Target.python.overrides, ¬ IsMoved entry.2 := by decide
  have hfallback : r.target.scalarFallback? = some "Any" := by rw [hr.target]; rfl
  have hany : r.escape "Any" = "Any" := escape_of_not_isMoved hr (by decide)
  unfold Resolver.coreName Resolver.spellName
  cases hlookup : r.overrides.lookup name with
  | some spelled =>
    rw [hr.overrides] at hlookup
    obtain ⟨_, _, hsplit, -⟩ := List.lookup_eq_some_iff.mp hlookup
    exact escape_of_not_isMoved hr (htable (name, spelled) (by simp [hsplit]))
  | none =>
    unfold Resolver.keepsName
    rw [hfallback]
    generalize r.schema?.bind (·.scalar? name) = scalar?
    generalize r.enumNamed? name = enum?
    cases enum? <;> cases scalar? <;> simp [hany]

/-- Only names have overrides. -/
theorem override?_eq_none (hr : r.IsPython) {t : TypeRef}
    (ht : ∀ text, t.signature? = some text → ∃ c ∈ text.toList, isNamePart c = false) :
    r.override? none t = none := by
  have htable : ∀ entry ∈ Target.python.overrides, isName entry.1 := by decide
  change t.key?.bind (fun key => r.overrides.lookup key) = none
  rw [Option.bind_eq_none_iff, hr.overrides]
  intro text htext
  obtain ⟨c, hc, hpart⟩ := ht text (TypeRef.signature?_of_key? htext)
  rw [List.lookup_eq_none_iff]
  intro entry hentry
  rw [bne_iff_ne]
  rintro rfl
  simp [isNamePart_of_mem (htable entry hentry) hc] at hpart

theorem override?_list (hr : r.IsPython) (e : TypeRef) : r.override? none (.list e) = none := by
  refine override?_eq_none hr fun text htext => ⟨'[', ?_, by decide⟩
  obtain ⟨element, -, rfl⟩ := Option.map_eq_some_iff.mp htext
  simp

theorem override?_nonNull (hr : r.IsPython) (t : TypeRef) :
    r.override? none (.nonNull t) = none := by
  refine override?_eq_none hr fun text htext => ⟨'!', ?_, by decide⟩
  obtain ⟨bare, -, rfl⟩ := Option.map_eq_some_iff.mp htext
  simp

/-- A name that may be missing is spelled as one, whether it has an override or not. -/
theorem spell_named (hr : r.IsPython) (name : String) :
    r.spell none (.named (some name)) = .ok (Target.pythonOptional (r.spellName none name)) := by
  have hoptional : r.target.optional = Target.pythonOptional := by rw [hr.target]; rfl
  have hoverride : r.override? none (.named (some name)) = r.overrides.lookup name := rfl
  rw [Resolver.spell, hoverride]
  unfold Resolver.orOptional Resolver.spellName
  rw [hoptional]
  cases r.overrides.lookup name <;> rfl

/-- A word in front of brackets is read, and so is what stands inside. -/
theorem mem_identifiers_word (outer element : String) (houter : outer ∈ pythonWords)
    {word : String} :
    word ∈ identifiers (outer ++ "[" ++ element ++ "]") ↔
      word = outer ∨ word ∈ identifiers element := by
  have hwords : ∀ w ∈ pythonWords, identifiers w = [w] := by decide
  rw [mem_identifiers_bracketed, hwords outer houter, List.mem_singleton]

theorem mem_identifiers_pythonOptional {text word : String}
    (hopen : "Optional[".toList.isPrefixOf text.toList = false) (hany : text ≠ "Any") :
    word ∈ identifiers (Target.pythonOptional text) ↔
      word = "Optional" ∨ word ∈ identifiers text := by
  have hnot : ("Optional[".toList.isPrefixOf text.toList || text = Target.pythonAny) = false :=
    Bool.or_eq_false_iff.mpr ⟨hopen, decide_eq_false hany⟩
  rw [Target.pythonOptional, hnot, if_neg Bool.false_ne_true]
  exact mem_identifiers_word "Optional" text (by decide)

theorem mem_identifiers_list {element word : String} :
    word ∈ identifiers (Target.python.listType element) ↔
      word = "List" ∨ word ∈ identifiers element := by
  have hlist : Target.python.listType element = "List" ++ "[" ++ element ++ "]" := rfl
  rw [hlist, mem_identifiers_word "List" element (by decide)]

theorem mem_identifiers_optionalList {element word : String} :
    word ∈ identifiers (Target.pythonOptional (Target.python.listType element)) ↔
      word = "Optional" ∨ word = "List" ∨ word ∈ identifiers element := by
  have hlist : Target.python.listType element = "List" ++ "[" ++ element ++ "]" := rfl
  have hhead : (Target.python.listType element).toList.head? = some 'L' := by simp [hlist]
  rw [mem_identifiers_pythonOptional, mem_identifiers_list]
  · obtain ⟨rest, hrest⟩ := List.head?_eq_some_iff.mp hhead
    rw [hrest]
    rfl
  · intro heq
    rw [heq] at hhead
    exact absurd hhead (by decide)

theorem mem_identifiers_optionalName (hr : r.IsDefaultPython) (h : isName name) {word : String} :
    word ∈ identifiers (Target.pythonOptional (r.escape name)) ↔
      ∃ n ∈ if name = "Any" then ["Any"] else ["Optional", name], word = r.escape n := by
  have hany : r.escape "Any" = "Any" := escape_of_not_isMoved hr (by decide)
  have hoptional : r.escape "Optional" = "Optional" := escape_of_not_isMoved hr (by decide)
  by_cases heq : name = "Any"
  · have hread : identifiers (Target.pythonOptional "Any") = ["Any"] := by decide
    simp [heq, hany, hread]
  · have hopen : "Optional[".toList.isPrefixOf (r.escape name).toList = false := by
      by_contra hprefix
      have hplain := plain_escape hr.target fun _ hc => isNamePart_of_mem h hc
      have hmem := (List.isPrefixOf_iff_prefix.mp (by simpa using hprefix)).subset
        (show '[' ∈ "Optional[".toList by decide)
      exact absurd (hplain _ hmem) (by decide)
    have hne : r.escape name ≠ "Any" := by
      rw [escape_python hr.toIsDefault hr.target]
      split
      · intro hmoved
        have hlast := congrArg (fun text => text.toList.getLast?) hmoved
        simp at hlast
      · exact heq
    rw [mem_identifiers_pythonOptional hopen hne, mem_identifiers_escape hr h]
    simp [heq, hoptional]

/-- An annotation reads what is read where its reference is spelled. -/
theorem mem_identifiers_spell (hr : r.IsDefaultPython) {t : TypeRef} (ht : t.Written)
    {spelled word : String} (hs : r.spell none t = .ok spelled) :
    word ∈ identifiers spelled ↔ ∃ n ∈ namesRead r t, word = r.escape n := by
  have hpython := hr.toIsPython
  have hlist : r.escape "List" = "List" := escape_of_not_isMoved hr (by decide)
  have hoptional : r.escape "Optional" = "Optional" := escape_of_not_isMoved hr (by decide)
  induction ht generalizing spelled with
  | @named name hname =>
    rw [spell_named hpython, ← escape_coreName hr] at hs
    obtain rfl := Except.ok.inj hs
    rw [mem_identifiers_optionalName hr (isName_coreName hr hname), namesRead]
  | @list e _ ih =>
    rw [Resolver.spell, override?_list hpython, hr.target] at hs
    obtain ⟨bare, hbare, rfl⟩ := map_eq_ok.mp hs
    obtain ⟨element, helement, rfl⟩ := map_eq_ok.mp hbare
    have hoptionals : Target.python.optional = Target.pythonOptional := rfl
    rw [namesRead, List.exists_mem_cons_iff, List.exists_mem_cons_iff, hlist, hoptional, hr.target,
      hoptionals, mem_identifiers_optionalList]
    exact or_congr_right (or_congr_right (ih helement))
  | @nonNullNamed name hname =>
    rw [Resolver.spell, override?_nonNull hpython] at hs
    obtain rfl := Except.ok.inj hs
    rw [← escape_coreName hr, mem_identifiers_escape hr (isName_coreName hr hname), namesRead]
    simp
  | @nonNullList e _ ih =>
    rw [Resolver.spell, override?_nonNull hpython] at hs
    obtain ⟨element, helement, rfl⟩ := map_eq_ok.mp hs
    rw [namesRead, List.exists_mem_cons_iff, hlist, hr.target, mem_identifiers_list]
    exact or_congr_right (ih helement)

end OperationClasses
