import OperationClasses.Proofs.Input.Expansion
import OperationClasses.Target.Registry

/-!
# The input classes of an operation

There is one class for each input type that the variables of an operation lead to, and no other.
A class stands behind those of all types that its own type needs, directly or through other
types, as long as they do not lead back to it. On a circle the last class stands behind all that
the circle leads to; the others need not.
-/
namespace OperationClasses.Input

open Syntax

/-- A property stands for a field of an input type. -/
def StandsForField (r : Resolver) (f : InputValueDefinition) (p : Property) : Prop :=
  p.name = r.escape f.name ∧ (f.name ≠ "" → p.graphqlName = f.name)

theorem standsForField_property (r : Resolver) (f : InputValueDefinition) :
    StandsForField r f (property r "input" f.name f.type) := by
  unfold StandsForField property
  split <;> exact ⟨rfl, fun hname => if_neg hname⟩

/-- A class has one property for each field of its type, in the same order. -/
theorem forall₂_standsForField (r : Resolver) (d : TypeDefinition) :
    List.Forall₂ (StandsForField r) d.inputFields (classOf r d).properties := by
  rw [classOf, ClassModel.flat, ClassModel.properties_mk, List.forall₂_map_right_iff]
  exact List.forall₂_same.mpr fun f _ => standsForField_property r f

/-- The classes of variables: one for each input type that they lead to, whatever circles the
types form, with one property for each field. What a type needs that does not lead back to it
stands before it, with all that this leads to; and what a circle leads to stands before one of the
types on the circle. -/
theorem classes_expandVariables (r : Resolver) (s : Schema) (vs : List VariableDefinition) :
    ∃ types : List TypeDefinition,
      (expandVariables r s vs {}).classes = types.map (classOf r) ∧
      (∀ d, d ∈ types ↔ ReachedFrom s vs d) ∧
      (types.map (·.name)).Nodup ∧
      (∀ d ∈ types, List.Forall₂ (StandsForField r) d.inputFields (classOf r d).properties) ∧
      (∀ before c after, types = before ++ c :: after →
        ∀ x d, Needs s c x → ¬ Reaches s x c → Reaches s x d → d ∈ before) ∧
      ∀ c d, c ∈ types → Reaches s c d → ¬ Reaches s d c →
        ∃ before c' after, types = before ++ c' :: after ∧
          Reaches s c c' ∧ Reaches s c' c ∧ d ∈ before := by
  obtain ⟨types, hstands, hreached⟩ := exists_stands_expandVariables r s vs
  refine ⟨types, hstands.classes, hreached, hstands.nodup,
    fun d _ => forall₂_standsForField r d, ?_, ?_⟩
  · exact fun before c after hsplit x d hneeds hback hreach =>
      hstands.ordered.mem_before hsplit hneeds hback hreach
  · intro c d hc hreach hback
    obtain ⟨c', x, hcc', hc'c, hneeds, hback', hxd⟩ := exists_last_on_circle hreach hback
    obtain ⟨before, after, hsplit⟩ := List.append_of_mem (hstands.mem_of_reaches hc hcc')
    exact ⟨before, c', after, hsplit, hcc', hc'c,
      hstands.ordered.mem_before hsplit hneeds hback' hxd⟩

/-- An input type with fields of given names and types. -/
def inputType (name : String) (fields : List (String × String)) : TypeDefinition :=
  ⟨none, false, name, [],
    .input (fields.map fun f => ⟨none, f.1, .named (some f.2), none, []⟩)⟩

/-- A folder holds an entry, which names its folder, and an owner. -/
def folderInput : TypeDefinition := inputType "Folder" [("entry", "Entry"), ("owner", "Owner")]

def entryInput : TypeDefinition := inputType "Entry" [("folder", "Folder")]

def ownerInput : TypeDefinition := inputType "Owner" [("name", "String")]

def folderSchema : Schema := ⟨none, [], [folderInput, entryInput, ownerInput]⟩

def folderVariable : VariableDefinition := ⟨none, "folder", .named (some "Folder"), none, []⟩

def folderResolver : Resolver := ⟨.csharp, [], [], some folderSchema⟩

theorem not_needs_ownerInput (d : TypeDefinition) : ¬ Needs folderSchema ownerInput d := by
  rintro ⟨f, hf, hd⟩
  have hname : f.type = .named (some "String") := by
    simp only [ownerInput, inputType, TypeDefinition.inputFields, List.map_cons, List.map_nil,
      List.mem_singleton] at hf
    rw [hf]
  rw [hname] at hd
  cases hd

/-- An entry leads to the owner of its folder, who does not lead back; still the class of the
entry stands first. -/
theorem entryInput_before_ownerInput :
    Reaches folderSchema entryInput ownerInput ∧ ¬ Reaches folderSchema ownerInput entryInput ∧
      (expandVariables folderResolver folderSchema [folderVariable] {}).classes =
        [entryInput, ownerInput, folderInput].map (classOf folderResolver) := by
  refine ⟨?_, fun h => ?_, rfl⟩
  · have hfolder : Needs folderSchema entryInput folderInput := ⟨_, List.mem_cons_self, rfl⟩
    have howner : Needs folderSchema folderInput ownerInput :=
      ⟨_, List.mem_cons_of_mem _ List.mem_cons_self, rfl⟩
    exact (Relation.ReflTransGen.single hfolder).tail howner
  · rcases h.cases_head with heq | ⟨d, hd, -⟩
    · exact absurd (congrArg TypeDefinition.name heq) (by decide)
    · exact not_needs_ownerInput d hd

end OperationClasses.Input
