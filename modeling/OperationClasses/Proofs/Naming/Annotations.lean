import OperationClasses.Classes.Input
import OperationClasses.Proofs.Response.Heart
import OperationClasses.Proofs.Schema.InputTypes

/-!
# Identifiers in annotations

A type that Python spells is a name inside brackets, and the words before the brackets are known
in every module. So besides these words, an annotation holds at most the name that is escaped for
it: that of an enumeration, of an input type, or of a type that the schema does not define.
-/
namespace OperationClasses

open Syntax

/-- The identifiers in a text: its longest pieces of characters of names. -/
def identifiers (text : String) : List String :=
  ((text.toList.splitOnP (!isNamePart ·)).filter (!·.isEmpty)).map String.ofList

theorem identifiers_append {mark : Char} (hmark : isNamePart mark = false)
    (before after : List Char) :
    identifiers (String.ofList (before ++ mark :: after)) =
      identifiers (String.ofList before) ++ identifiers (String.ofList after) := by
  simp only [identifiers, String.toList_ofList]
  rw [List.splitOnP_append_cons _ _ (by simp [hmark]), List.filter_append, List.map_append]

theorem mem_identifiers_append {mark : Char} (hmark : isNamePart mark = false)
    (before after : String) {word : String} :
    word ∈ identifiers (before ++ String.singleton mark ++ after) ↔
      word ∈ identifiers before ∨ word ∈ identifiers after := by
  have hsplit : before ++ String.singleton mark ++ after =
      String.ofList (before.toList ++ mark :: after.toList) := by
    rw [← String.toList_inj]
    simp
  rw [hsplit, identifiers_append hmark, String.ofList_toList, String.ofList_toList,
    List.mem_append]

/-- A text of characters of names is its only identifier. -/
theorem eq_of_mem_identifiers {text word : String} (h : Plain text.toList)
    (hword : word ∈ identifiers text) : word = text := by
  rw [identifiers, List.splitOnP_eq_singleton (by simpa using h)] at hword
  simp only [List.mem_map, List.mem_filter, List.mem_singleton] at hword
  obtain ⟨_, ⟨rfl, -⟩, rfl⟩ := hword
  exact String.ofList_toList

theorem mem_identifiers_bracketed (name element : String) {word : String} :
    word ∈ identifiers (name ++ "[" ++ element ++ "]") ↔
      word ∈ identifiers name ∨ word ∈ identifiers element := by
  have hopening : isNamePart '[' = false := by decide
  have hclosing : isNamePart ']' = false := by decide
  have hnone : word ∉ identifiers "" := by simp [identifiers]
  have houter : word ∈ identifiers (name ++ "[" ++ element ++ "]" ++ "") ↔ _ ∨ _ :=
    mem_identifiers_append hclosing (name ++ "[" ++ element) ""
  rw [String.append_empty, or_iff_left hnone] at houter
  exact houter.trans (mem_identifiers_append hopening name element)

/-- The words that every module knows: built-in types, and what it imports for annotations. -/
def pythonWords : List String :=
  ["str", "int", "float", "bool", "Any", "List", "Optional", "date", "datetime"]

/-- A resolver for Python with the table of overrides that comes with it. -/
structure Resolver.IsPython (r : Resolver) : Prop where
  target : r.target = .python
  overrides : r.overrides = Target.python.overrides

/-- The identifiers of a type are words that every module knows and names of a given kind. -/
def UsesOnly (names : String → Prop) (spelled : String) : Prop :=
  ∀ word ∈ identifiers spelled, word ∈ pythonWords ∨ names word

variable {names names' : String → Prop} {spelled : String}

theorem UsesOnly.mono (h : UsesOnly names spelled) (hnames : ∀ word, names word → names' word) :
    UsesOnly names' spelled :=
  fun word hword => (h word hword).imp_right (hnames word)

theorem usesOnly_word (h : spelled ∈ pythonWords) : UsesOnly names spelled := by
  have hall : pythonWords.all (·.toList.all isNamePart) := by decide
  have hplain : Plain spelled.toList := List.all_eq_true.mp (List.all_eq_true.mp hall spelled h)
  intro word hword
  rw [eq_of_mem_identifiers hplain hword]
  exact .inl h

theorem usesOnly_name (hplain : Plain spelled.toList) (h : names spelled) :
    UsesOnly names spelled := by
  intro word hword
  rw [eq_of_mem_identifiers hplain hword]
  exact .inr h

theorem UsesOnly.bracketed (h : UsesOnly names spelled) (outer : String)
    (houter : outer ∈ pythonWords) : UsesOnly names (outer ++ "[" ++ spelled ++ "]") := by
  intro word hword
  rcases (mem_identifiers_bracketed outer spelled).mp hword with hword | hword
  · exact usesOnly_word houter word hword
  · exact h word hword

theorem UsesOnly.optional (h : UsesOnly names spelled) :
    UsesOnly names (Target.python.optional spelled) := by
  change UsesOnly names (Target.pythonOptional spelled)
  unfold Target.pythonOptional
  split
  · exact h
  · exact h.bracketed "Optional" (by decide)

theorem UsesOnly.list (h : UsesOnly names spelled) :
    UsesOnly names (Target.python.listType spelled) :=
  h.bracketed "List" (by decide)

theorem plain_escape {r : Resolver} (hr : r.target = .python) {name : String} (h : Plain name.toList) :
    Plain (r.escape name).toList := by
  intro c hc
  rw [Resolver.escape, hr] at hc
  rcases Response.mem_pythonIdentifier hc with hc | rfl
  · have hmem := Response.mem_escapeReserved_around hc
    simp only [String.toList_empty, List.not_mem_nil, false_or] at hmem
    rcases hmem with hmem | hmem
    · exact h c hmem
    · rw [List.mem_singleton.mp hmem]
      decide
  · decide

variable {r : Resolver} {name? : Option String}

/-- A word is a name that was escaped. -/
def IsEscaped (r : Resolver) (name? : Option String) (word : String) : Prop :=
  ∃ name, name? = some name ∧ word = r.escape name

/-- Every override that comes with Python is a word that every module knows. -/
theorem usesOnly_of_lookup {key : String}
    (h : Target.python.overrides.lookup key = some spelled) : UsesOnly names spelled := by
  have htable : ∀ entry ∈ Target.python.overrides, entry.2 ∈ pythonWords := by decide
  obtain ⟨_, _, hsplit, -⟩ := List.lookup_eq_some_iff.mp h
  exact usesOnly_word (htable (key, spelled) (by simp [hsplit]))

theorem usesOnly_of_override? (hr : r.IsPython) {t : TypeRef}
    (h : r.override? none t = some spelled) : UsesOnly names spelled := by
  obtain ⟨key, -, hkey⟩ := Option.bind_eq_some_iff.mp h
  exact usesOnly_of_lookup (hr.overrides ▸ hkey)

theorem usesOnly_spellName (hr : r.IsPython) {name : String} (hname : isName name) :
    UsesOnly (IsEscaped r (r.escapedName? name)) (r.spellName none name) := by
  have hfallback : r.target.scalarFallback? = some "Any" := by rw [hr.target]; rfl
  unfold Resolver.spellName Resolver.escapedName?
  cases hlookup : r.overrides.lookup name with
  | some spelled => exact usesOnly_of_lookup (hr.overrides ▸ hlookup)
  | none =>
    have hescaped : UsesOnly (IsEscaped r (some name)) (r.escape name) :=
      usesOnly_name (plain_escape hr.target fun _ hc => isNamePart_of_mem hname hc) ⟨name, rfl, rfl⟩
    simp only [Option.isSome_none, Bool.false_eq_true, ↓reduceIte, hfallback, Resolver.keepsName,
      Option.isNone_some, Bool.or_false]
    by_cases henum : (r.enumNamed? name).isSome
    · rw [if_pos henum, if_pos (by simp [henum])]
      exact hescaped
    · rw [if_neg henum]
      by_cases hscalar : (r.schema?.bind (·.scalar? name)).isSome
      · rw [if_pos hscalar]
        exact usesOnly_word (by decide)
      · rw [if_neg hscalar, if_pos (by simp [Option.not_isSome_iff_eq_none.mp hscalar])]
        exact hescaped

theorem usesOnly_orOptional (hr : r.IsPython) {t : TypeRef}
    {bare : Except Resolver.Fault String}
    (hbare : ∀ s, bare = .ok s → UsesOnly (IsEscaped r name?) s)
    (h : r.orOptional (r.override? none t) bare = .ok spelled) :
    UsesOnly (IsEscaped r (if (r.override? none t).isSome then none else name?)) spelled := by
  unfold Resolver.orOptional at h
  rw [hr.target] at h
  cases hover : r.override? none t with
  | some v =>
    rw [hover] at h
    cases h
    exact (usesOnly_of_override? hr hover).optional
  | none =>
    rw [hover] at h
    obtain ⟨s, hs, rfl⟩ := map_eq_ok.mp h
    exact (hbare s hs).optional

/-- A spelled reference uses only the name that is escaped for it. -/
theorem usesOnly_spell (hr : r.IsPython) {t : TypeRef} (ht : t.Written)
    (hs : r.spell none t = .ok spelled) : UsesOnly (IsEscaped r (r.escapedIn? t)) spelled := by
  induction ht generalizing spelled with
  | @named name hname =>
    rw [Resolver.spell] at hs
    rw [Resolver.escapedIn?]
    refine usesOnly_orOptional hr (fun s heq => ?_) hs
    rw [← Except.ok.inj heq]
    exact usesOnly_spellName hr hname
  | list _ ih =>
    rw [Resolver.spell] at hs
    rw [Resolver.escapedIn?]
    refine usesOnly_orOptional hr (fun s heq => ?_) hs
    obtain ⟨element, helement, rfl⟩ := map_eq_ok.mp heq
    rw [hr.target]
    exact (ih helement).list
  | @nonNullNamed name hname =>
    rw [Resolver.spell] at hs
    rw [Resolver.escapedIn?]
    cases hover : r.override? none (.nonNull (.named (some name))) with
    | some v =>
      rw [hover] at hs
      exact Except.ok.inj hs ▸ usesOnly_of_override? hr hover
    | none =>
      rw [hover] at hs
      exact Except.ok.inj hs ▸ usesOnly_spellName hr hname
  | @nonNullList e _ ih =>
    rw [Resolver.spell] at hs
    rw [Resolver.escapedIn?]
    cases hover : r.override? none (.nonNull (.list e)) with
    | some v =>
      rw [hover] at hs
      exact Except.ok.inj hs ▸ usesOnly_of_override? hr hover
    | none =>
      rw [hover] at hs
      obtain ⟨element, helement, rfl⟩ := map_eq_ok.mp hs
      rw [hr.target]
      exact (ih helement).list

theorem eq_of_escapedName? {name name' : String} (h : r.escapedName? name = some name') :
    name = name' := by
  unfold Resolver.escapedName? at h
  split at h
  · cases h
  · split at h
    · exact Option.some.inj h
    · cases h

/-- The name that is escaped for a reference is the one at its heart, and has no override. If it is
that of an enumeration, the enumeration is met. -/
theorem escapedIn?_eq_some {t : TypeRef} (ht : t.Written) {name : String}
    (h : r.escapedIn? t = some name) :
    t.name? = some name ∧ r.escapedName? name = some name ∧ r.enumIn? t = r.enumNamed? name := by
  induction ht with
  | @named n _ =>
    rw [Resolver.escapedIn?] at h
    rw [Resolver.enumIn?]
    split at h
    · cases h
    · next hover =>
      obtain rfl := eq_of_escapedName? h
      exact ⟨rfl, h, if_neg hover⟩
  | list _ ih =>
    rw [Resolver.escapedIn?] at h
    rw [Resolver.enumIn?]
    split at h
    · cases h
    · next hover => exact if_neg hover ▸ ih h
  | @nonNullNamed n _ =>
    rw [Resolver.escapedIn?] at h
    rw [Resolver.enumIn?]
    split at h
    · cases h
    · next hover =>
      obtain rfl := eq_of_escapedName? h
      exact ⟨rfl, h, if_neg hover⟩
  | nonNullList _ ih =>
    rw [Resolver.escapedIn?] at h
    rw [Resolver.enumIn?]
    split at h
    · cases h
    · next hover => exact if_neg hover ▸ ih h

/-- What is escaped is neither a built-in scalar nor a custom one, and an enumeration is met. -/
theorem enumMet?_or_of_escapedIn? (hr : r.IsPython) {s : Schema} (hschema : r.schema? = some s)
    {t : TypeRef} (ht : t.Written) {name : String} (h : r.escapedIn? t = some name) :
    t.name? = some name ∧ name ∉ Schema.Standard.scalars ∧
      (r.enumMet? t = some name ∧ (s.enum? name).isSome ∨
        s.enum? name = none ∧ s.scalar? name = none) := by
  obtain ⟨hname, hescaped, hmet⟩ := escapedIn?_eq_some ht h
  obtain ⟨text, htext, -⟩ := ht.signature?
  have hmet' : r.enumMet? t = r.enumNamed? name := by simp [Resolver.enumMet?, htext, hmet]
  have hscalars : ∀ n ∈ Schema.Standard.scalars, (Target.python.overrides.lookup n).isSome := by
    decide
  unfold Resolver.escapedName? at hescaped
  rw [hr.overrides] at hescaped
  split at hescaped
  · cases hescaped
  · next hlookup =>
    refine ⟨hname, fun hmem => hlookup (hscalars name hmem), ?_⟩
    have henumNamed : r.enumNamed? name = if (s.enum? name).isSome then some name else none := by
      simp [Resolver.enumNamed?, hr.overrides, hlookup, hschema]
    by_cases henum : (s.enum? name).isSome
    · exact .inl ⟨by rw [hmet', henumNamed, if_pos henum], henum⟩
    · have hfallback : r.target.scalarFallback? = some "Any" := by rw [hr.target]; rfl
      split at hescaped
      · next hkeeps =>
        refine .inr ⟨Option.not_isSome_iff_eq_none.mp henum, ?_⟩
        simpa [Resolver.keepsName, henumNamed, henum, hfallback, hschema] using hkeeps
      · cases hescaped

/-- A word is the name of an enumeration of the schema that is met where a reference is spelled. -/
def MeetsEnum (r : Resolver) (s : Schema) (t : TypeRef) (word : String) : Prop :=
  ∃ name, r.enumMet? t = some name ∧ (s.enum? name).isSome ∧ word = r.escape name

/-- The type of a leaf uses only an enumeration that is met. -/
theorem usesOnly_leaf (hr : r.IsPython) {s : Schema} (hschema : r.schema? = some s)
    {t : TypeRef} (ht : t.Written) {n : String} (hn : t.name? = some n) (hleaf : s.IsLeaf n)
    (hs : r.spell none t = .ok spelled) : UsesOnly (MeetsEnum r s t) spelled := by
  refine (usesOnly_spell hr ht hs).mono fun word ⟨name, hname, hname'⟩ => ?_
  obtain ⟨hheart, hscalar, hmet⟩ := enumMet?_or_of_escapedIn? hr hschema ht hname
  obtain rfl : name = n := Option.some.inj (hheart.symm.trans hn)
  rcases hmet with ⟨hmet, henum⟩ | ⟨hnone, hcustom⟩
  · exact ⟨name, hmet, henum, hname'⟩
  · simp [Schema.IsLeaf, hnone, hcustom, hscalar] at hleaf

/-- The type of a variable's or an input field's property is the spelled reference. -/
theorem Input.spell_property {t : TypeRef} (ht : t.Written) (r : Resolver)
    (provenance name : String) :
    r.spell none t = .ok (Input.property r provenance name t).type := by
  obtain ⟨spelled, hresolve, hspell⟩ := Response.exists_resolve ht r none provenance
  rw [Input.property, hresolve, hspell]
  rfl

/-- A word is the name of the class of the input type that a reference leads to. -/
def NamesInput (r : Resolver) (s : Schema) (t : TypeRef) (word : String) : Prop :=
  ∃ d, Input.nested? s t = some d ∧ word = r.escape d.name

/-- The type of a variable or an input field uses only an enumeration that is met and an input
type. -/
theorem usesOnly_property (hr : r.IsPython) {s : Schema} (hschema : r.schema? = some s)
    {t : TypeRef} (ht : t.Written) {n : String} (hn : t.name? = some n)
    (hknown : s.IsLeaf n ∨ (s.input? n).isSome) (provenance name : String) :
    UsesOnly (fun word => MeetsEnum r s t word ∨ NamesInput r s t word)
      (Input.property r provenance name t).type := by
  have hspell := Input.spell_property ht r provenance name
  by_cases hleaf : s.IsLeaf n
  · exact (usesOnly_leaf hr hschema ht hn hleaf hspell).mono fun _ => .inl
  · obtain ⟨d, hd⟩ := Option.isSome_iff_exists.mp (hknown.resolve_left hleaf)
    refine (usesOnly_spell hr ht hspell).mono fun word ⟨m, hm, hm'⟩ => .inr ⟨d, ?_, ?_⟩
    · rw [Input.nested?, hn]
      exact hd
    · obtain ⟨hheart, -⟩ := escapedIn?_eq_some ht hm
      rw [hm', s.name_of_find? hd, Option.some.inj (hheart.symm.trans hn)]

end OperationClasses
