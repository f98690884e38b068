import OperationClasses.Proofs.Schema.Building

/-!
# Root types

Which types a document makes the root types of its schema, and which ones are found for the kinds
of operations. A schema is used by way of its text, and that names the root types only if one of
them has an unusual name or the schema is described. Where it does not, a kind is looked up as a
word: the first object type that bears it as its name, in any case, is taken for the root type,
whether the document made it one or not.
-/
namespace OperationClasses.Schema

open Syntax

/-- The root type that a document gives to an operation kind. -/
def ownRoot? (doc : Document) (s : Schema) (kind : OperationKind) : Option String :=
  (Build.rootTypes (Build.schemaDefinitions doc) s.types).lookup kind

/-- The document has a schema definition, and not only extensions of one. -/
def IsExplicit (doc : Document) : Prop := ∃ d ∈ Build.schemaDefinitions doc, d.isExtension = false

/-- All root types have their usual names and the schema has no description, so that its text does
not name them. -/
structure IsUsual (doc : Document) (s : Schema) : Prop where
  names : ∀ kind name, ownRoot? doc s kind = some name → name = Build.usualName kind
  undescribed : ∀ d ∈ Build.schemaDefinitions doc, d.isExtension = false → d.description? = none

/-- An object type bears the word for an operation kind as its name, in any case. -/
def Bears (kind : OperationKind) (d : TypeDefinition) : Prop :=
  d.body.kind = .object ∧ Text.lowerText d.name = kind.text

instance (kind : OperationKind) (d : TypeDefinition) : Decidable (Bears kind d) :=
  inferInstanceAs (Decidable (_ ∧ _))

/-- The schema's own root type is found for an operation kind, and none where the schema
definition names none. -/
structure FindsRoot (doc : Document) (s : Schema) (kind : OperationKind) : Prop where
  own : ∀ name, ownRoot? doc s kind = some name →
    ∃ d, defined? s.types name = some d ∧ s.root? kind = some d
  unnamed : IsExplicit doc → ownRoot? doc s kind = none → s.root? kind = none

/-- The schema's own root type is an object type that the document defines. Where root types are
not named, no object type before it bears the word for the kind. No object type at all bears the
word where the schema definition names no root type. -/
structure RootStandsOut (doc : Document) (s : Schema) (kind : OperationKind) : Prop where
  object : ∀ name, ownRoot? doc s kind = some name →
    ∃ d, defined? s.types name = some d ∧ d.body.kind = .object
  first : IsUsual doc s → ∀ name, ownRoot? doc s kind = some name →
    ∀ d ∈ s.types.takeWhile (·.name ≠ name), ¬ Bears kind d
  unborne : IsExplicit doc → ownRoot? doc s kind = none → ∀ d ∈ s.types, ¬ Bears kind d

/-- The root types are listed kind by kind. -/
theorem exists_rootTypes_eq (definitions : List SchemaDefinition) (types : List TypeDefinition) :
    ∃ given : OperationKind → Option String, Build.rootTypes definitions types =
      Build.kinds.filterMap fun kind => (given kind).map (kind, ·) := by
  refine ⟨fun kind => if !definitions.any (!·.isExtension) &&
    types.any (·.name = Build.usualName kind) then some (Build.usualName kind) else
      ((definitions.filter (!·.isExtension) ++ definitions.filter (·.isExtension)).flatMap
        (·.operationTypes)).reverse.lookup kind, ?_⟩
  refine List.filterMap_congr fun kind _ => ?_
  dsimp only
  split <;> rfl

theorem lookup_kinds (given : OperationKind → Option String) (kind : OperationKind) :
    (Build.kinds.filterMap fun kind => (given kind).map (kind, ·)).lookup kind = given kind := by
  cases hq : given .query <;> cases hm : given .mutation <;> cases hs : given .subscription <;>
    cases kind <;> simp [Build.kinds, hq, hm, hs] <;> rfl

theorem mem_rootTypes_iff {doc : Document} {s : Schema} {kind : OperationKind} {name : String} :
    (kind, name) ∈ Build.rootTypes (Build.schemaDefinitions doc) s.types ↔
      ownRoot? doc s kind = some name := by
  obtain ⟨given, hgiven⟩ := exists_rootTypes_eq (Build.schemaDefinitions doc) s.types
  have hall : kind ∈ Build.kinds := by cases kind <;> decide
  rw [ownRoot?, hgiven, lookup_kinds, List.mem_filterMap]
  simp only [Option.map_eq_some_iff, Prod.mk.injEq]
  constructor
  · rintro ⟨_, -, _, hname, rfl, rfl⟩
    exact hname
  · exact fun hname => ⟨kind, hall, name, hname, rfl, rfl⟩

theorem roots?_of_build {text : String} {doc : Document} {s : Schema}
    (h : build text doc = .ok s) :
    s.roots? = Build.namedRoots? (Build.schemaDefinitions doc) s.types :=
  (build_eq_ok_iff.mp h).roots

/-- The text of a schema names the root types exactly if it has to. -/
theorem roots?_cases {text : String} {doc : Document} {s : Schema} (h : build text doc = .ok s) :
    IsUsual doc s ∧ s.roots? = none ∨ ¬ IsUsual doc s ∧
      s.roots? = some (Build.rootTypes (Build.schemaDefinitions doc) s.types) := by
  rw [roots?_of_build h]
  unfold Build.namedRoots?
  dsimp only
  split
  · next hnamed =>
    refine .inr ⟨fun husual => ?_, rfl⟩
    simp only [Bool.or_eq_true, List.any_eq_true, Bool.and_eq_true, Bool.not_eq_true',
      decide_eq_true_eq, Prod.exists, mem_rootTypes_iff] at hnamed
    rcases hnamed with ⟨d, hd, hext, hdescribed⟩ | ⟨kind, name, hname, hne⟩
    · simp [husual.undescribed d hd hext] at hdescribed
    · exact hne (husual.names kind name hname)
  · next hnamed =>
    simp only [Bool.or_eq_true, List.any_eq_true, Bool.and_eq_true, Bool.not_eq_true',
      decide_eq_true_eq, not_or, not_exists, not_and, Prod.forall, mem_rootTypes_iff,
      Option.not_isSome_iff_eq_none, Decidable.not_not] at hnamed
    exact .inl ⟨⟨hnamed.2, hnamed.1⟩, rfl⟩

theorem ofText?_text (kind : OperationKind) : OperationKind.ofText? kind.text = some kind := by
  cases kind <;> rfl

theorem lowerText_usualName (kind : OperationKind) :
    Text.lowerText (Build.usualName kind) = kind.text := by
  cases kind <;> decide

theorem lowerText_text (kind : OperationKind) : Text.lowerText kind.text = kind.text := by
  cases kind <;> decide

/-- Where a root type is named for the kind, it is looked up by that name. -/
theorem root?_of_lookup {s : Schema} {kind : OperationKind} {name : String}
    (h : (s.roots?.getD []).lookup kind = some name) : s.root? kind = s.object? name := by
  simp [root?, rootFor?, ofText?_text, h]

/-- Where none is named, the first object type that bears the word is taken. -/
theorem root?_of_lookup_eq_none {s : Schema} {kind : OperationKind}
    (h : (s.roots?.getD []).lookup kind = none) : s.root? kind = s.types.find? (Bears kind ·) := by
  simp only [root?, rootFor?, ofText?_text, Option.bind_some, h, lowerText_text, Bears]
  refine congrArg (s.types.find? ·) (funext fun d => ?_)
  exact (Bool.decide_and ..).symm

/-- Only an object type is found for a kind. -/
theorem kind_of_root? {s : Schema} {kind : OperationKind} {d : TypeDefinition}
    (h : s.root? kind = some d) : d.body.kind = .object := by
  cases hlookup : (s.roots?.getD []).lookup kind with
  | some name =>
    rw [root?_of_lookup hlookup] at h
    have hfound := List.find?_some h
    simp only [Bool.and_eq_true, decide_eq_true_eq] at hfound
    exact hfound.2
  | none =>
    rw [root?_of_lookup_eq_none hlookup] at h
    have hbears : Bears kind d := by simpa using List.find?_some h
    exact hbears.1

/-- The object type that is defined under a name is the object type of that name. -/
theorem object?_of_defined? {s : Schema} {name : String} {d : TypeDefinition}
    (h : defined? s.types name = some d) (hkind : d.body.kind = .object) :
    s.object? name = some d := by
  obtain ⟨hname, before, after, hsplit, hbefore⟩ := List.find?_eq_some_iff_append.mp h
  refine List.find?_eq_some_iff_append.mpr ⟨by simp_all, before, after, hsplit, fun e he => ?_⟩
  have hne : e.name ≠ name := by simpa using hbefore e he
  simp [hne]

/-- The type under a name is the first that bears the word for a kind exactly if it bears the word
and no type before it does. -/
theorem find?_bears_eq_defined?_iff {s : Schema} {kind : OperationKind} {name : String}
    {d : TypeDefinition} (h : defined? s.types name = some d) :
    s.types.find? (Bears kind ·) = some d ↔
      Bears kind d ∧ ∀ e ∈ s.types.takeWhile (·.name ≠ name), ¬ Bears kind e := by
  obtain ⟨hname, before, after, hsplit, hbefore⟩ := List.find?_eq_some_iff_append.mp h
  have hname : d.name = name := by simpa using hname
  have hbefore : ∀ e ∈ before, e.name ≠ name := by simpa using hbefore
  have htake : s.types.takeWhile (·.name ≠ name) = before := by
    rw [hsplit, List.takeWhile_append_of_pos (by simpa using hbefore)]
    simp [hname]
  rw [htake, hsplit, List.find?_append]
  constructor
  · intro hfirst
    have hnone : before.find? (Bears kind ·) = none := by
      rw [Option.eq_none_iff_forall_not_mem]
      intro e he
      rw [he, Option.some_or, Option.some.injEq] at hfirst
      exact hbefore e (List.mem_of_find?_eq_some he) (hfirst ▸ hname)
    rw [hnone, Option.none_or] at hfirst
    have hbears : Bears kind d := by simpa using List.find?_some hfirst
    exact ⟨hbears, by simpa using hnone⟩
  · rintro ⟨hbears, hnone⟩
    have hnone : before.find? (Bears kind ·) = none := by simpa using hnone
    simp [hnone, hbears]

/-- For an operation kind the schema's own root type is found, and none where the schema
definition names none, exactly if the root type stands out. -/
theorem findsRoot_iff_rootStandsOut {text : String} {doc : Document} {s : Schema}
    (h : build text doc = .ok s) (kind : OperationKind) :
    FindsRoot doc s kind ↔ RootStandsOut doc s kind := by
  have hlookup : IsUsual doc s ∧ (s.roots?.getD []).lookup kind = none ∨
      ¬ IsUsual doc s ∧ (s.roots?.getD []).lookup kind = ownRoot? doc s kind := by
    rcases roots?_cases h with ⟨husual, hroots⟩ | ⟨husual, hroots⟩
    · exact .inl ⟨husual, by rw [hroots]; rfl⟩
    · exact .inr ⟨husual, by rw [hroots]; rfl⟩
  have hunnamed : ownRoot? doc s kind = none →
      (s.root? kind = none ↔ ∀ d ∈ s.types, ¬ Bears kind d) := by
    intro hown
    have hnone : (s.roots?.getD []).lookup kind = none := by
      rcases hlookup with ⟨-, hnone⟩ | ⟨-, heq⟩
      · exact hnone
      · exact heq.trans hown
    rw [root?_of_lookup_eq_none hnone]
    simp
  constructor
  · intro hfinds
    refine ⟨fun name hname => ?_, fun husual name hname => ?_, fun hexplicit hown => ?_⟩
    · obtain ⟨d, hd, hroot⟩ := hfinds.own name hname
      exact ⟨d, hd, kind_of_root? hroot⟩
    · obtain ⟨d, hd, hroot⟩ := hfinds.own name hname
      obtain ⟨-, hnone⟩ := hlookup.resolve_right fun hnot => hnot.1 husual
      rw [root?_of_lookup_eq_none hnone, find?_bears_eq_defined?_iff hd] at hroot
      exact hroot.2
    · exact (hunnamed hown).mp (hfinds.unnamed hexplicit hown)
  · intro hstands
    refine ⟨fun name hname => ?_, fun hexplicit hown => ?_⟩
    · obtain ⟨d, hd, hobject⟩ := hstands.object name hname
      refine ⟨d, hd, ?_⟩
      rcases hlookup with ⟨husual, hnone⟩ | ⟨-, heq⟩
      · rw [root?_of_lookup_eq_none hnone, find?_bears_eq_defined?_iff hd]
        have hdname : d.name = name := by simpa using List.find?_some hd
        refine ⟨⟨hobject, ?_⟩, hstands.first husual name hname⟩
        rw [hdname, husual.names kind name hname, lowerText_usualName]
      · rw [root?_of_lookup (heq.trans hname)]
        exact object?_of_defined? hd hobject
    · exact (hunnamed hown).mpr (hstands.unborne hexplicit hown)

/-- An object type with one field. -/
def pingType (name : String) : Definition :=
  .typeSystem (.type ⟨none, false, name, [], .object []
    [⟨none, "ping", [], .named (some "Int"), []⟩]⟩) none

/-- A schema definition that names the root type of queries only. -/
def queryRoot (name : String) : Definition :=
  .typeSystem (.schema ⟨none, false, [], [(.query, name)]⟩) none

/-- A root type of an unusual name is found although another type bears the word for its kind. -/
theorem findsRoot_unusualName :
    ∃ s, build "" [queryRoot "Root", pingType "QUERY", pingType "Root"] = .ok s ∧
      FindsRoot [queryRoot "Root", pingType "QUERY", pingType "Root"] s .query := by
  obtain ⟨s, hbuild, hown, hdefined⟩ : ∃ s,
      build "" [queryRoot "Root", pingType "QUERY", pingType "Root"] = .ok s ∧
      ownRoot? [queryRoot "Root", pingType "QUERY", pingType "Root"] s .query = some "Root" ∧
      (defined? s.types "Root").map (·.body.kind) = some .object :=
    ⟨_, rfl, by decide +kernel, by decide +kernel⟩
  obtain ⟨d, hd, hkind⟩ := Option.map_eq_some_iff.mp hdefined
  refine ⟨s, hbuild, (findsRoot_iff_rootStandsOut hbuild .query).mpr ⟨?_, ?_, ?_⟩⟩
  · intro name hname
    obtain rfl : "Root" = name := Option.some.inj (hown.symm.trans hname)
    exact ⟨d, hd, hkind⟩
  · intro husual
    exact absurd (husual.names .query "Root" hown) (by decide)
  · intro _ hnone
    exact absurd (hown.symm.trans hnone) (Option.some_ne_none _)

/-- Where root types are not named, the type `QUERY` is taken for the root type `Query` that stands
behind it, and `Mutation` for a root type although the schema definition names none. -/
theorem not_findsRoot_usualName :
    ∃ s, build "" [queryRoot "Query", pingType "QUERY", pingType "Query", pingType "Mutation"] =
        .ok s ∧
      ¬ FindsRoot [queryRoot "Query", pingType "QUERY", pingType "Query", pingType "Mutation"] s
        .query ∧
      ¬ FindsRoot [queryRoot "Query", pingType "QUERY", pingType "Query", pingType "Mutation"] s
        .mutation := by
  refine ⟨_, rfl, fun hfinds => ?_, fun hfinds => ?_⟩
  · obtain ⟨d, hd, hroot⟩ := hfinds.own "Query" (by decide +kernel)
    have hname := congrArg (Option.map (·.name)) (hroot.trans hd.symm)
    exact absurd hname (by decide +kernel)
  · have hexplicit : IsExplicit [queryRoot "Query", pingType "QUERY", pingType "Query",
        pingType "Mutation"] := ⟨_, List.mem_cons_self, rfl⟩
    have hnone := congrArg (Option.map (·.name))
      (hfinds.unnamed hexplicit (by decide +kernel))
    exact absurd hnone (by decide +kernel)

end OperationClasses.Schema
