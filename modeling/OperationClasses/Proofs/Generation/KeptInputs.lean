import OperationClasses.Proofs.Generation.HoistedInputs
import OperationClasses.Proofs.Naming.Arrivals

/-!
# Input classes that share a name

Input types are told apart by their names in the schema, their classes by escaped names, and of the
classes of one name a run keeps the first. In C# different types have different names. In Python
twins have one name, and of two such types that a run reaches the second loses its class, unless
both classes have the same properties: what is annotated with it is read as the first one.
-/
namespace OperationClasses

open Syntax Response

namespace Resolver

variable {r : Resolver} {t : TypeRef} {name : String}

theorem Arrives.passes_name (h : r.Arrives t name) : r.Passes (.named (some name)) := by
  induction h with
  | named h => exact h
  | list _ _ ih => exact ih
  | nonNullNamed _ h => exact h
  | nonNullList _ _ ih => exact ih

/-- A reference that arrives at its name is spelled around it. -/
theorem spell_of_arrives (h : r.Arrives t name) :
    r.spell none t = .ok (around r.target (r.spellName none name) t) := by
  induction h with
  | named h =>
    rw [spell, override?_eq_none h]
    rfl
  | list h _ ih =>
    rw [spell, override?_eq_none h, ih]
    rfl
  | nonNullNamed h _ =>
    rw [spell, override?_eq_none h]
    rfl
  | nonNullList h _ ih =>
    rw [spell, override?_eq_none h, spellBare, ih]
    rfl

theorem spellName_of_arrives (h : r.Arrives t name) (hkeeps : r.keepsName name) :
    r.spellName none name = r.escape name := by
  have hlookup : r.overrides.lookup name = none := override?_eq_none h.passes_name
  unfold keepsName at hkeeps
  unfold spellName
  simp only [hlookup]
  by_cases henum : (r.enumNamed? name).isSome
  · rw [if_pos henum]
  · rw [if_neg henum]
    cases hfallback : r.target.scalarFallback? with
    | none => rfl
    | some fallback =>
      have hscalar : (r.schema?.bind (·.scalar? name)).isNone := by
        simpa only [henum, hfallback, Bool.false_or, Option.isNone_some] using hkeeps
      exact if_neg (Option.not_isSome_iff_eq_none.mpr (Option.isNone_iff_eq_none.mp hscalar))

end Resolver

namespace Input

/-- The annotation of a reference that arrives at a name is the reference around the escaped
name. -/
theorem type_property_of_arrives {r : Resolver} {t : TypeRef} {name : String}
    (h : r.Arrives t name) (hkeeps : r.keepsName name) (provenance graphqlName : String) :
    (property r provenance graphqlName t).type = around r.target (r.escape name) t := by
  have hresolve : r.resolve none provenance t = .ok (around r.target (r.escape name) t) := by
    obtain ⟨text, htext⟩ := Option.isSome_iff_exists.mp h.passes.signature?
    rw [Resolver.resolve, htext, if_neg (by simp), Resolver.spell_of_arrives h,
      Resolver.spellName_of_arrives h hkeeps]
  rw [property, hresolve]
  rfl

end Input

namespace Generator

open Input

/-- A variable of a named operation, or a field of an input type that such a variable leads to, has
the reference for its type. -/
def RefersIn (s : Schema) (ts : List Task) (ref : TypeRef) : Prop :=
  ∃ t ∈ ts, t.operation.name?.isSome ∧ ((∃ v ∈ t.operation.variables, v.type = ref) ∨
    ∃ d, ReachedFrom s t.operation.variables d ∧ ∃ f ∈ d.inputFields, f.type = ref)

theorem RefersIn.reachedBy {s : Schema} {ts : List Task} {ref : TypeRef} (h : RefersIn s ts ref)
    {d : TypeDefinition} (hd : nested? s ref = some d) : ReachedBy s ts d := by
  obtain ⟨t, ht, hname, ⟨v, hv, rfl⟩ | ⟨c, ⟨v, hv, root, hroot, hreach⟩, f, hf, rfl⟩⟩ := h
  · exact ⟨t, ht, hname, v, hv, d, hd, .refl⟩
  · exact ⟨t, ht, hname, v, hv, root, hroot, hreach.tail ⟨f, hf, hd⟩⟩

theorem ReachedBy.known {s : Schema} {ts : List Task} {d : TypeDefinition}
    (h : ReachedBy s ts d) : s.input? d.name = some d := by
  obtain ⟨_, -, -, v, -, root, hroot, hreach⟩ := h
  rcases hreach.cases_tail with rfl | ⟨c, -, hneeds⟩
  · exact input?_of_nested? hroot
  · exact hneeds.input?

/-- The operations of a run have the classes of the types that their variables lead to. -/
theorem exists_mem_inputClasses_iff {g : Generator} {output : Output} {log : List LogEntry}
    (h : g.build = .ok (output, log)) {c : ClassModel} :
    c ∈ output.operations.flatMap (·.inputClasses) ↔
      ∃ d, ReachedBy g.schema (tasks (g.hooks.before g.documents)) d ∧
        c = classOf g.resolver d := by
  simp only [flatMap_inputClasses_of_build h, List.mem_flatMap, reachedBy_iff]
  constructor
  · rintro ⟨vs, hvs, hc⟩
    obtain ⟨types, hclasses, -, hmem⟩ := exists_hoisted_expandVariables g.resolver g.schema vs
    rw [hclasses] at hc
    obtain ⟨d, hd, rfl⟩ := List.mem_map.mp hc
    exact ⟨d, ⟨vs, hvs, (hmem d).mp hd⟩, rfl⟩
  · rintro ⟨d, ⟨vs, hvs, hreached⟩, rfl⟩
    obtain ⟨types, hclasses, -, hmem⟩ := exists_hoisted_expandVariables g.resolver g.schema vs
    exact ⟨vs, hvs, hclasses ▸ List.mem_map_of_mem ((hmem d).mpr hreached)⟩

/-- No input class is lost when those of all operations are put together. -/
structure KeepsInputClasses (g : Generator) (output : Output) : Prop where
  kept : ∀ m ∈ output.operations, ∀ c ∈ m.inputClasses, c ∈ output.inputClasses
  same : ∀ m ∈ output.operations, ∀ m' ∈ output.operations, ∀ c ∈ m.inputClasses,
    ∀ c' ∈ m'.inputClasses, c.name = c'.name → c = c'
  /-- An annotation that names the class of an input type means this class. -/
  meant : ∀ ref d, RefersIn g.schema (tasks (g.hooks.before g.documents)) ref →
    nested? g.schema ref = some d → g.resolver.Arrives ref d.name → g.resolver.keepsName d.name →
    (∀ provenance name, (property g.resolver provenance name ref).type =
      around g.target (g.resolver.escape d.name) ref) ∧
    output.inputClasses.find? (·.name = g.resolver.escape d.name) = some (classOf g.resolver d)

/-- Nothing is lost if the classes of one name are equal. -/
theorem keepsInputClasses_of_eq {g : Generator} {output : Output} {log : List LogEntry}
    (h : g.build = .ok (output, log))
    (heq : ∀ c d, ReachedBy g.schema (tasks (g.hooks.before g.documents)) c →
      ReachedBy g.schema (tasks (g.hooks.before g.documents)) d →
      g.resolver.escape c.name = g.resolver.escape d.name →
      classOf g.resolver c = classOf g.resolver d) : KeepsInputClasses g output := by
  have hfind : ∀ d, ReachedBy g.schema (tasks (g.hooks.before g.documents)) d →
      output.inputClasses.find? (·.name = g.resolver.escape d.name) =
        some (classOf g.resolver d) := by
    intro d hd
    have hmem := (exists_mem_inputClasses_iff h).mpr ⟨d, hd, rfl⟩
    rw [output.find?_inputClasses]
    obtain ⟨c, hc⟩ := Option.isSome_iff_exists.mp
      (List.find?_isSome.mpr ⟨_, hmem, decide_eq_true rfl⟩ :
        ((output.operations.flatMap (·.inputClasses)).find?
          (·.name = g.resolver.escape d.name)).isSome)
    obtain ⟨c', hc', rfl⟩ := (exists_mem_inputClasses_iff h).mp (List.mem_of_find?_eq_some hc)
    have hname := List.find?_some hc
    rw [hc, heq c' d hc' hd (of_decide_eq_true hname)]
  have hclass : ∀ m ∈ output.operations, ∀ c ∈ m.inputClasses,
      ∃ d, ReachedBy g.schema (tasks (g.hooks.before g.documents)) d ∧ c = classOf g.resolver d :=
    fun m hm c hc => (exists_mem_inputClasses_iff h).mp (List.mem_flatMap.mpr ⟨m, hm, hc⟩)
  refine ⟨fun m hm c hc => ?_, fun m hm m' hm' c hc c' hc' hname => ?_,
    fun ref d href hd harrives hkeeps => ?_⟩
  · obtain ⟨d, hd, rfl⟩ := hclass m hm c hc
    exact List.mem_of_find?_eq_some (hfind d hd)
  · obtain ⟨d, hd, rfl⟩ := hclass m hm c hc
    obtain ⟨d', hd', rfl⟩ := hclass m' hm' c' hc'
    exact heq d d' hd hd' hname
  · exact ⟨type_property_of_arrives harrives hkeeps, hfind d (href.reachedBy hd)⟩

/-- With a built-in target and its reserved words, no input class is lost in C#; and in Python none
is exactly if any two input types of the run whose names are twins have classes with the same
properties. -/
theorem keepsInputClasses_iff {g : Generator} (htarget : IsBuiltIn g.target)
    (hwords : g.config.reservedWords? = none) (hnames : ∀ d ∈ g.schema.types, isName d.name)
    {output : Output} {log : List LogEntry} (h : g.build = .ok (output, log)) :
    KeepsInputClasses g output ↔ (g.target = .python →
      ∀ c d, ReachedBy g.schema (tasks (g.hooks.before g.documents)) c →
        ReachedBy g.schema (tasks (g.hooks.before g.documents)) d → Twins c.name d.name →
        (classOf g.resolver c).properties = (classOf g.resolver d).properties) := by
  have hr := isDefault_resolver htarget hwords
  constructor
  · intro hkeeps hpython c d hc hd htwins
    obtain ⟨m, hm, hcm⟩ := List.mem_flatMap.mp ((exists_mem_inputClasses_iff h).mpr ⟨c, hc, rfl⟩)
    obtain ⟨m', hm', hdm⟩ := List.mem_flatMap.mp ((exists_mem_inputClasses_iff h).mpr ⟨d, hd, rfl⟩)
    have hname := (escape_python_eq_iff hr hpython).mpr (.inr htwins)
    rw [hkeeps.same m hm m' hm' _ hcm _ hdm hname]
  · intro htwins
    refine keepsInputClasses_of_eq h fun c d hc hd hname => ?_
    have hsame : c.name = d.name → classOf g.resolver c = classOf g.resolver d := by
      intro heq
      have hcd := hc.known
      rw [heq, hd.known] at hcd
      rw [Option.some.inj hcd]
    have hisName : ∀ x, g.schema.input? x.name = some x → isName x.name :=
      fun x hx => hnames x (List.mem_of_find?_eq_some hx)
    rcases htarget with hcsharp | hpython
    · exact hsame (escape_csharp_inj hr hcsharp (hisName c hc.known) (hisName d hd.known) hname)
    · rcases (escape_python_eq_iff hr hpython).mp hname with heq | htwin
      · exact hsame heq
      · have hproperties := htwins hpython c d hc hd htwin
        exact congrArg₂ ClassModel.flat hname hproperties

theorem not_twins_of_reachedBy {c d : TypeDefinition}
    (hc : ReachedBy driveSchema (tasks (driveRun.hooks.before driveRun.documents)) c)
    (hd : ReachedBy driveSchema (tasks (driveRun.hooks.before driveRun.documents)) d) :
    ¬ Twins c.name d.name := by
  have hapart : ∀ a ∈ driveSchema.types.filter (·.body.kind = .input),
      ∀ b ∈ driveSchema.types.filter (·.body.kind = .input), ¬ Twins a.name b.name := by
    decide +kernel
  exact hapart c (mem_inputs_of_input? hc.known) d (mem_inputs_of_input? hd.known)

theorem keepsInputClasses_driveRun : ∃ output log, driveRun.build = .ok (output, log) ∧
    output.operations.map (·.name) = ["querySize", "queryQuota"] ∧
    KeepsInputClasses driveRun output := by
  obtain ⟨output, log, hbuild, hoperations⟩ := exists_build_driveRun
  refine ⟨output, log, hbuild, hoperations, ?_⟩
  exact (keepsInputClasses_iff (.inr rfl) rfl (by decide) hbuild).mpr fun _ c d hc hd htwins =>
    absurd htwins (not_twins_of_reachedBy hc hd)

/-- Two input types to which Python gives one name, with different fields. -/
def pairSchema : Schema where
  roots? := none
  directives := []
  types := [⟨none, false, "Query", [], .object []
      [⟨none, "a", [plainInput "x" "A_", plainInput "y" "_A"], .named (some "Int"), []⟩]⟩,
    inputType "A_" [("p", "Int")], inputType "_A" [("q", "Int")]]

def pairQuery : Operation :=
  ⟨none, .parsed .query, some "Q", [⟨none, "x", .named (some "A_"), none, []⟩,
      ⟨none, "y", .named (some "_A"), none, []⟩], [],
    [.field none "a" [⟨"x", .variable "x", 33⟩, ⟨"y", .variable "y", 40⟩] [] none 26],
    some "query Q($x: A_, $y: _A) { a(x: $x, y: $y) }"⟩

def pairRun : Generator :=
  ⟨pairSchema, [⟨"pair.graphql", [.operation pairQuery]⟩], { target := "python" }, .python, {}⟩

/-- The class of the second type is not among those of the run. -/
theorem not_keepsInputClasses_pairRun :
    Schema.build "" (documentOf pairSchema) = .ok pairRun.schema ∧
      ∃ output log, pairRun.build = .ok (output, log) ∧
        ∃ m ∈ output.operations, ∃ c ∈ m.inputClasses, ∀ c' ∈ output.inputClasses,
          ¬ (c'.name = c.name ∧ c'.properties = c.properties) := by
  obtain ⟨output, log, hbuild, hclasses⟩ :=
    exists_build_of_map (g := pairRun)
      (fun o => (o.inputClasses.map (fun c => c.properties.map (·.name)),
        o.operations.map fun m => m.inputClasses.map fun c => c.properties.map (·.name)))
      (show _ = some ([["p"]], [[["p"], ["q"]]]) by decide +kernel)
  obtain ⟨hkept, hoperations⟩ := Prod.mk.inj hclasses
  obtain ⟨m, hm, hinputs⟩ := List.map_eq_singleton_iff.mp hoperations
  obtain ⟨c, hc, hq⟩ : ∃ c ∈ m.inputClasses, c.properties.map (·.name) = ["q"] := by
    have hmem : ["q"] ∈ m.inputClasses.map fun c => c.properties.map (·.name) := by
      simp [hinputs]
    exact List.mem_map.mp hmem
  refine ⟨rfl, output, log, hbuild, m, by simp [hm], c, hc, ?_⟩
  rintro c' hc' ⟨-, hproperties⟩
  have hp : c'.properties.map (·.name) ∈ [["p"]] := by
    rw [← hkept]
    exact List.mem_map_of_mem hc'
  rw [hproperties, hq] at hp
  exact absurd hp (by decide)

end Generator

end OperationClasses
