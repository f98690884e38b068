import OperationClasses.Proofs.Generation.Filtering
import OperationClasses.Proofs.Generation.LegalIdentifiers
import OperationClasses.Proofs.Schema.Building
import OperationClasses.Proofs.Schema.FieldNames
import OperationClasses.Proofs.Syntax.WellNamed

/-!
# Names of a run over texts

The types of a schema have the names, fields and values of their definitions and extensions. So a
run whose schema and documents were read from texts meets names wherever it makes identifiers of
them, and written types wherever it makes annotations of them.
-/
namespace OperationClasses

open Syntax

namespace Schema

/-- What an extension adds is as well named as it was. -/
theorem wellNamed_extendBody {body more : TypeBody} (hbody : body.WellNamed)
    (hmore : more.WellNamed) : (Build.extendBody body more).WellNamed := by
  cases body <;> cases more <;> first
    | exact List.forall_mem_append.mpr ⟨hbody, hmore⟩
    | exact hbody

theorem wellNamed_of_mem_definedTypes {doc : Document} (hdoc : ∀ d ∈ doc, d.WellNamed)
    {d : TypeDefinition} (hd : d ∈ doc.filterMap definedType?) : d.WellNamed := by
  obtain ⟨definition, hmem, hdefined⟩ := List.mem_filterMap.mp hd
  have hwell := hdoc definition hmem
  unfold definedType? at hdefined
  split at hdefined
  · obtain rfl := Option.some.inj hdefined
    exact hwell
  · cases hdefined

theorem wellNamed_merged {doc : Document} (hdoc : ∀ d ∈ doc, d.WellNamed) {d : TypeDefinition}
    (hd : d.WellNamed) : (Build.merged doc d).WellNamed := by
  refine ⟨hd.name, ?_⟩
  have hextensions : ∀ e ∈ Build.extensions doc d.name, e.body.WellNamed := by
    intro e he
    rw [extensions_eq] at he
    exact (wellNamed_of_mem_definedTypes hdoc (List.mem_of_mem_filter he)).body
  change ((Build.extensions doc d.name).foldl _ d.body).WellNamed
  generalize Build.extensions doc d.name = extensions at hextensions
  have hbody := hd.body
  generalize d.body = body at hbody
  induction extensions generalizing body with
  | nil => exact hbody
  | cons e extensions ih =>
    obtain ⟨he, hrest⟩ := List.forall_mem_cons.mp hextensions
    exact ih hrest _ (wellNamed_extendBody hbody he)

/-- The types of a schema are as well named as the document it was built from. -/
theorem wellNamed_of_build {text : String} {doc : Document} {s : Schema}
    (h : build text doc = .ok s) (hdoc : ∀ d ∈ doc, d.WellNamed) : ∀ d ∈ s.types, d.WellNamed := by
  intro d hd
  rw [(build_eq_ok_iff.mp h).types] at hd
  obtain ⟨definition, hdefinition, rfl⟩ := List.mem_map.mp hd
  exact wellNamed_merged hdoc (wellNamed_of_mem_definedTypes hdoc (mem_typeDefinitions hdefinition).1)

end Schema

namespace Syntax.TypeDefinition.WellNamed

variable {d : TypeDefinition}

theorem fields (h : d.WellNamed) : ∀ f ∈ d.fields, f.WellNamed := by
  have hbody := h.body
  unfold TypeDefinition.fields
  split
  · next hd => rwa [hd] at hbody
  · next hd => rwa [hd] at hbody
  · simp

theorem inputFields (h : d.WellNamed) : ∀ f ∈ d.inputFields, f.WellNamed := by
  have hbody := h.body
  unfold TypeDefinition.inputFields
  split
  · next hd => rwa [hd] at hbody
  · simp

theorem enumValues (h : d.WellNamed) : ∀ v ∈ d.enumValues, isName v.name := by
  have hbody := h.body
  unfold TypeDefinition.enumValues
  split
  · next hd => rwa [hd] at hbody
  · simp

end Syntax.TypeDefinition.WellNamed

namespace Generator

/-- The schema and the documents of a run were read from texts. -/
structure IsRead (g : Generator) : Prop where
  schema : ∃ text doc, Document.parse text = .ok doc ∧ Schema.build text doc = .ok g.schema
  documents : ∀ d ∈ g.documents, ∃ text, Document.parse text = .ok d.document

theorem exists_document_of_mem_tasks {docs : List SourceDocument} {t : Task} (h : t ∈ tasks docs) :
    ∃ d ∈ docs, .operation t.operation ∈ d.document ∧
      t.fragments = Fragments.ofDocument d.document := by
  obtain ⟨d, hd, ht⟩ := List.mem_flatMap.mp h
  obtain ⟨o, ho, rfl⟩ := List.mem_map.mp ht
  obtain ⟨definition, hdefinition, hoperation⟩ := List.mem_filterMap.mp ho
  unfold Definition.operation? at hoperation
  split at hoperation
  · obtain rfl := Option.some.inj hoperation
    exact ⟨d, hd, hdefinition, rfl⟩
  · cases hoperation

theorem mem_of_mem_ofDocument {doc : Document} {f : Fragment} (h : f ∈ Fragments.ofDocument doc) :
    .fragment f ∈ doc := by
  obtain ⟨definition, hdefinition, hfragment⟩ := List.mem_filterMap.mp h
  unfold Definition.fragment? at hfragment
  split at hfragment
  · obtain rfl := Option.some.inj hfragment
    exact hdefinition
  · cases hfragment

namespace IsRead

variable {g : Generator}

theorem wellNamed_types (h : g.IsRead) : ∀ d ∈ g.schema.types, d.WellNamed := by
  obtain ⟨text, doc, hdoc, hbuild⟩ := h.schema
  exact Schema.wellNamed_of_build hbuild (wellNamed_of_parse hdoc)

/-- The schema has names for its types, their fields and values, and written types. -/
theorem named (h : g.IsRead) : g.schema.Named where
  written d hd f hf := ((h.wellNamed_types d hd).fields f hf).type
  types d hd := (h.wellNamed_types d hd).name
  inputs d hd f hf := ((h.wellNamed_types d hd).inputFields f hf).name
  values d hd := (h.wellNamed_types d hd).enumValues

/-- Filters leave what was read as it was. -/
theorem wellNamed_task (h : g.IsRead) {t : Task} (ht : t ∈ tasks (g.hooks.before g.documents)) :
    t.operation.WellNamed ∧ ∀ f ∈ t.fragments, f.WellNamed := by
  rw [tasks_before] at ht
  obtain ⟨d, hd, hoperation, hfragments⟩ := exists_document_of_mem_tasks (List.mem_of_mem_filter ht)
  obtain ⟨text, hread⟩ := h.documents d hd
  have hwell := wellNamed_of_parse hread
  refine ⟨hwell _ hoperation, fun f hf => ?_⟩
  rw [hfragments] at hf
  exact hwell _ (mem_of_mem_ofDocument hf)

/-- The operations that are left bear names, and so does everything in them. -/
theorem labelled (h : g.IsRead) {t : Task} (ht : t ∈ tasks (g.hooks.before g.documents)) :
    t.Labelled := by
  obtain ⟨hoperation, hfragments⟩ := h.wellNamed_task ht
  exact {
    selections := Selection.labelled_of_text
      (Syntax.Selection.isName_of_wellNamed hoperation.selections)
      fun f hf => Syntax.Selection.isName_of_wellNamed (hfragments f hf).selections
    variableNames := fun v hv => (hoperation.variables v hv).name
    operationName := hoperation.name }

theorem written_variables (h : g.IsRead) {t : Task} (ht : t ∈ tasks (g.hooks.before g.documents)) :
    ∀ v ∈ t.operation.variables, v.type.Written :=
  fun v hv => ((h.wellNamed_task ht).1.variables v hv).type

end IsRead

end Generator

end OperationClasses
