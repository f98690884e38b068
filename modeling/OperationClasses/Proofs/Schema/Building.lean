import OperationClasses.Proofs.Result
import OperationClasses.Schema.Build

/-!
# Built schemas

What is known of a document and of a schema when the schema could be built from the document: every
check was passed, and the parts of the schema are those of the document.
-/
namespace OperationClasses.Schema

open Syntax

/-- Nothing keeps a schema from being built from a document, and it is this one. -/
structure BuiltFrom (text : String) (doc : Document) (s : Schema) : Prop where
  problems : Rules.problems doc = []
  leaves : ∀ d ∈ s.types, Build.checkLeaf text d = .ok ()
  arguments : ∀ a ∈ (Build.directiveDefinitions doc).flatMap (·.arguments),
    Build.checkArgument s.types text a = .ok ()
  checked : ∀ d ∈ s.types, Build.checkType s.types text d = .ok ()
  roots : s.roots? = Build.namedRoots? (Build.schemaDefinitions doc) s.types
  directives : s.directives =
    (Build.directiveDefinitions doc).filter (!Standard.directiveNames.contains ·.name)
  types : s.types = (Build.typeDefinitions doc).map (Build.merged doc)

theorem build_eq_ok_iff {text : String} {doc : Document} {s : Schema} :
    build text doc = .ok s ↔ BuiltFrom text doc s := by
  unfold build
  dsimp only
  by_cases hproblems : Rules.problems doc = []
  · rw [if_neg (by simp [hproblems])]
    simp only [bind_eq_ok, mapError_eq_ok]
    constructor
    · rintro ⟨⟨⟩, hleaves, ⟨⟩, harguments, ⟨⟩, hchecked, h⟩
      obtain rfl := Except.ok.inj h
      exact ⟨hproblems, forM_eq_ok_iff.mp hleaves, forM_eq_ok_iff.mp harguments,
        forM_eq_ok_iff.mp hchecked, rfl, rfl, rfl⟩
    · rintro ⟨-, hleaves, harguments, hchecked, hroots, hdirectives, htypes⟩
      rw [htypes] at hleaves harguments hchecked hroots
      refine ⟨(), forM_eq_ok_iff.mpr hleaves, (), forM_eq_ok_iff.mpr harguments, (),
        forM_eq_ok_iff.mpr hchecked, congrArg Except.ok ?_⟩
      rw [← hroots, ← hdirectives, ← htypes]
  · rw [if_pos (by simpa using hproblems)]
    exact ⟨fun h => absurd h throw_bind_ne_ok, fun h => absurd h.problems hproblems⟩

end OperationClasses.Schema
