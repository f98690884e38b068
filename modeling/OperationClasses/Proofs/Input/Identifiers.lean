import OperationClasses.Proofs.Input.Expansion
import OperationClasses.Proofs.Naming.Annotations

/-!
# Identifiers in input classes

In Python, the annotations of a request and of the input classes that belong to it use words that
every module knows, enumerations that were met on the way, and the names of these input classes.
An enumeration that occurs only deep inside a circle of input types is met as well.
-/
namespace OperationClasses.Input

open Syntax

/-- A reference as a text writes it to a scalar, an enumeration or an input type of the schema, or
to a built-in scalar. -/
structure RefersTo (s : Schema) (t : TypeRef) (name : String) : Prop where
  written : t.Written
  heart : t.name? = some name
  known : s.IsLeaf name ∨ (s.input? name).isSome

/-- A word is the name of an enumeration that was met, or of a class that was finished. -/
def Expanded (r : Resolver) (s : Schema) (e : Expansion) (word : String) : Prop :=
  (∃ name ∈ e.enums, (s.enum? name).isSome ∧ word = r.escape name) ∨ word ∈ e.classes.map (·.name)

variable {r : Resolver} {s : Schema} {e : Expansion} {types : List TypeDefinition}

/-- A property whose type was noted uses only what was met and finished. -/
theorem usesOnly_expanded (hr : r.IsPython) (hschema : r.schema? = some s) {t : TypeRef}
    {n : String} (ht : RefersTo s t n) (provenance name : String)
    (hclasses : e.classes = types.map (classOf r))
    (hmet : ∀ enum, r.enumMet? t = some enum → enum ∈ e.enums)
    (hfound : ∀ d, nested? s t = some d → d ∈ types) :
    UsesOnly (Expanded r s e) (property r provenance name t).type := by
  refine (usesOnly_property hr hschema ht.written ht.heart ht.known provenance name).mono ?_
  rintro word (⟨enum, henum, hsome, rfl⟩ | ⟨d, hd, rfl⟩)
  · exact .inl ⟨enum, hmet enum henum, hsome, rfl⟩
  · refine .inr (List.mem_map.mpr ⟨classOf r d, ?_, rfl⟩)
    rw [hclasses]
    exact List.mem_map_of_mem (hfound d hd)

/-- A request and the input classes that belong to it have no nested classes, and their annotations
use only enumerations that are met and the names of these classes. -/
theorem usesOnly_expandVariables (hr : r.IsPython) (hschema : r.schema? = some s)
    (hfields : ∀ d ∈ s.types, ∀ f ∈ d.inputFields, ∃ name, RefersTo s f.type name)
    {vs : List VariableDefinition} (hvs : ∀ v ∈ vs, ∃ name, RefersTo s v.type name) :
    ∀ c ∈ request r vs :: (expandVariables r s vs {}).classes, c.classes = [] ∧
      ∀ p ∈ c.properties, UsesOnly (Expanded r s (expandVariables r s vs {})) p.type := by
  obtain ⟨types, h⟩ := exists_finishes_expandVariables r s vs
  have hstands : Stands r s [] types (expandVariables r s vs {}) := by simpa using h.stands
  rw [List.forall_mem_cons]
  refine ⟨⟨rfl, fun p hp => ?_⟩, fun c hc => ?_⟩
  · rw [request, ClassModel.flat, ClassModel.properties_mk] at hp
    obtain ⟨v, hv, rfl⟩ := List.mem_map.mp hp
    obtain ⟨n, hn⟩ := hvs v hv
    refine usesOnly_expanded hr hschema hn _ _ hstands.classes (fun enum henum => ?_) fun d hd => ?_
    · exact h.met enum (List.mem_flatMap.mpr ⟨v, hv, by simp [henum]⟩)
    · simpa using h.found d (List.mem_flatMap.mpr ⟨v, hv, by simp [hd]⟩)
  · rw [hstands.classes] at hc
    obtain ⟨d, hd, rfl⟩ := List.mem_map.mp hc
    refine ⟨rfl, fun p hp => ?_⟩
    rw [classOf, ClassModel.flat, ClassModel.properties_mk] at hp
    obtain ⟨f, hf, rfl⟩ := List.mem_map.mp hp
    have hmem : d ∈ s.types := List.mem_of_find?_eq_some (hstands.known d (by simpa using hd))
    obtain ⟨n, hn⟩ := hfields d hmem f hf
    refine usesOnly_expanded hr hschema hn _ _ hstands.classes (hstands.met d hd f hf) fun x hx => ?_
    simpa using hstands.closed d hd x ⟨f, hf, hx⟩

end OperationClasses.Input
