import OperationClasses.Proofs.Naming.Names
import OperationClasses.Proofs.Schema.Building

/-!
# Types of input fields

When a schema is built, every field of an input type is checked to have a type that can be given.
So it refers to a scalar, an enumeration or an input type, of the schema or a standard one.
-/
namespace OperationClasses.Schema

open Syntax

theorem isInputType_of_inputField {types : List TypeDefinition} {text : String}
    {fieldsOf : FieldLookup} {f : InputValueDefinition} {field : InputField}
    (h : inputField types text fieldsOf f = .ok field) : isInputType types f.type := by
  unfold inputField at h
  simp only [bind_eq_ok] at h
  obtain ⟨_, -, _, -, hcheck⟩ := h
  split at hcheck
  · exact absurd hcheck throw_bind_ne_ok
  · next hinput => simpa using hinput

theorem isInputType_of_inputFields {types : List TypeDefinition} {text : String} {fuel : ℕ}
    {d : TypeDefinition} {fields : List InputField} (h : inputFields types text fuel d = .ok fields) :
    ∀ f ∈ d.inputFields, isInputType types f.type := by
  cases fuel with
  | zero => cases h
  | succ fuel =>
    rw [inputFields, mapError_eq_ok, mapM_eq_ok_iff] at h
    intro f hf
    generalize d.inputFields = fs at h hf
    induction h with
    | nil => cases hf
    | cons hfield _ ih =>
      rcases List.mem_cons.mp hf with rfl | hf
      · exact isInputType_of_inputField hfield
      · exact ih hf

/-- The type of every input field of a built schema can be given. -/
theorem isInputType_of_build {text : String} {doc : Document} {s : Schema}
    (h : build text doc = .ok s) :
    ∀ d ∈ s.types, ∀ f ∈ d.inputFields, isInputType s.types f.type := by
  intro d hd
  have hchecked := (build_eq_ok_iff.mp h).checked d hd
  unfold Build.checkType at hchecked
  cases hbody : d.body with
  | input fs =>
    simp only [hbody, mapError_eq_ok] at hchecked
    obtain ⟨fields, hfields⟩ := exists_of_discard_eq_ok hchecked
    exact isInputType_of_inputFields hfields
  | _ => simp [TypeDefinition.inputFields, hbody]

/-- A built-in scalar, or a scalar or an enumeration of the schema. -/
def IsLeaf (s : Schema) (name : String) : Prop :=
  name ∈ Standard.scalars ∨ (s.scalar? name).isSome ∨ (s.enum? name).isSome

theorem find?_of_defined? {s : Schema} {name : String} {kind : TypeKind}
    (h : (defined? s.types name).map (·.body.kind) = some kind) : (s.find? kind name).isSome := by
  obtain ⟨d, hd, hkind⟩ := Option.map_eq_some_iff.mp h
  have hname : d.name = name := by simpa using List.find?_some hd
  rw [find?, List.find?_isSome]
  exact ⟨d, List.mem_of_find?_eq_some hd, by simp [hname, hkind]⟩

/-- What can be given refers to a scalar, an enumeration or an input type; but the type may be one
that describes schemas, which is not part of the schema. -/
theorem isInputType_cases {s : Schema} {t : TypeRef} (h : isInputType s.types t) :
    ∃ name, t.name? = some name ∧ (s.IsLeaf name ∨ (s.input? name).isSome ∨
      name ∈ Standard.introspectionTypes.map (·.1)) := by
  unfold isInputType at h
  cases hname : t.name? with
  | none => simp [hname] at h
  | some name =>
    refine ⟨name, rfl, ?_⟩
    by_cases hscalar : name ∈ Standard.scalars
    · exact .inl (.inl hscalar)
    · by_cases hstandard : name ∈ Standard.introspectionTypes.map (·.1)
      · exact .inr (.inr hstandard)
      · have hlookup : Standard.introspectionTypes.lookup name = none := by
          rw [List.lookup_eq_none_iff]
          intro entry hentry
          simpa using fun heq : name = entry.1 => hstandard (heq ▸ List.mem_map_of_mem hentry)
        have hkind : kindOf? s.types name = (defined? s.types name).map (·.body.kind) := by
          simp [kindOf?, Standard.kind?, hscalar, hlookup]
        rw [hname, Option.bind_some, hkind] at h
        cases hdefined : (defined? s.types name).map (·.body.kind) with
        | none => simp [hdefined] at h
        | some kind =>
          have hfound := find?_of_defined? hdefined
          cases kind with
          | scalar => exact .inl (.inr (.inl hfound))
          | enum => exact .inl (.inr (.inr hfound))
          | input => exact .inr (.inl hfound)
          | object => simp [hdefined, takesInput] at h
          | interface => simp [hdefined, takesInput] at h
          | union => simp [hdefined, takesInput] at h

end OperationClasses.Schema
