import OperationClasses.Proofs.Input.Expansion
import OperationClasses.Proofs.Response.Paths

/-!
# Hoisted input classes

The input classes of all operations are put into one list, each name once, as they are first seen.
When no two input types share an escaped name, this puts the types themselves together: the list
holds every type that some operation needs, and it is still an order that puts a type behind all it
leads to, except for what leads back. Nothing is asked about the order of the operations, since each
of them brings all that its own types need.
-/
namespace OperationClasses

open Syntax

namespace Output

/-- Of the classes of one name the first one is kept. -/
theorem find?_foldl_addClass (classes more : List ClassModel) (name : String) :
    (more.foldl addClass classes).find? (·.name = name) =
      (classes ++ more).find? (·.name = name) := by
  induction more generalizing classes with
  | nil => simp
  | cons c more ih =>
    have hstep : (addClass classes c).find? (·.name = name) =
        (classes ++ [c]).find? (·.name = name) := by
      unfold addClass
      split
      · next hany =>
        rw [List.find?_append]
        obtain ⟨d, hd, hname⟩ := List.any_eq_true.mp hany
        by_cases hc : c.name = name
        · have hfound : (classes.find? (·.name = name)).isSome :=
            List.find?_isSome.mpr ⟨d, hd, by simpa [hc] using hname⟩
          rw [Option.or_of_isSome hfound]
        · simp [hc]
      · rfl
    rw [List.foldl_cons, ih, List.find?_append, hstep, ← List.find?_append, List.append_assoc]
    rfl

theorem nodup_name_addClass {classes : List ClassModel} (h : (classes.map (·.name)).Nodup)
    (c : ClassModel) : ((addClass classes c).map (·.name)).Nodup := by
  unfold addClass
  split
  · exact h
  · next hany =>
    rw [List.map_append, List.nodup_append']
    refine ⟨h, by simp, ?_⟩
    rw [List.map_singleton, List.disjoint_singleton]
    intro hmem
    obtain ⟨d, hd, hname⟩ := List.mem_map.mp hmem
    exact hany (List.any_eq_true.mpr ⟨d, hd, by simpa using hname⟩)

theorem nodup_name_foldl_addClass {classes : List ClassModel} (h : (classes.map (·.name)).Nodup)
    (more : List ClassModel) : ((more.foldl addClass classes).map (·.name)).Nodup := by
  induction more generalizing classes with
  | nil => exact h
  | cons c more ih => exact ih (nodup_name_addClass h c)

theorem nodup_name_inputClasses (o : Output) : (o.inputClasses.map (·.name)).Nodup :=
  nodup_name_foldl_addClass (by simp) _

theorem find?_inputClasses (o : Output) (name : String) :
    o.inputClasses.find? (·.name = name) =
      (o.operations.flatMap (·.inputClasses)).find? (·.name = name) :=
  find?_foldl_addClass [] _ name

end Output

namespace Input

variable {r : Resolver} {s : Schema} {base new types : List TypeDefinition} {d : TypeDefinition}

/-- No two input types have the same escaped name. -/
def NamesApart (r : Resolver) (s : Schema) : Prop :=
  ∀ c d, s.input? c.name = some c → s.input? d.name = some d → r.escape c.name = r.escape d.name →
    c = d

theorem mem_inputs_of_input? {name : String} (h : s.input? name = some d) :
    d ∈ s.types.filter (·.body.kind = .input) := by
  have hkind := List.find?_some h
  rw [Bool.and_eq_true] at hkind
  exact List.mem_filter.mpr ⟨List.mem_of_find?_eq_some h, hkind.2⟩

theorem namesApart_of_nodup
    (h : ((s.types.filter (·.body.kind = .input)).map fun d => r.escape d.name).Nodup) :
    NamesApart r s :=
  fun _ _ hc hd heq =>
    List.inj_on_of_nodup_map h (mem_inputs_of_input? hc) (mem_inputs_of_input? hd) heq

/-- Input types with all that they need, in an order that puts a type behind what it needs. -/
structure Hoisted (s : Schema) (types : List TypeDefinition) : Prop where
  nodup : (types.map (·.name)).Nodup
  known : ∀ d ∈ types, s.input? d.name = some d
  closed : ∀ c ∈ types, ∀ d, Needs s c d → d ∈ types
  ordered : Ordered s types

theorem Stands.hoisted {e : Expansion} (h : Stands r s [] types e) : Hoisted s types where
  nodup := by simpa using h.nodup
  known := by simpa using h.known
  closed := by simpa using h.closed
  ordered := h.ordered

theorem hoisted_nil (s : Schema) : Hoisted s [] where
  nodup := List.nodup_nil
  known := by simp
  closed := by simp
  ordered := ordered_nil

/-- Where names are apart, a class is left out exactly when its type is there. -/
theorem addClass_classOf (hapart : NamesApart r s) (hknown : ∀ c ∈ types, s.input? c.name = some c)
    (hd : s.input? d.name = some d) :
    d ∈ types ∧ Output.addClass (types.map (classOf r)) (classOf r d) = types.map (classOf r) ∨
      d ∉ types ∧ Output.addClass (types.map (classOf r)) (classOf r d) =
        (types ++ [d]).map (classOf r) := by
  unfold Output.addClass
  by_cases hmem : d ∈ types
  · refine .inl ⟨hmem, if_pos (List.any_eq_true.mpr ⟨classOf r d, ?_, by simp⟩)⟩
    exact List.mem_map_of_mem hmem
  · refine .inr ⟨hmem, ?_⟩
    rw [if_neg, List.map_append, List.map_singleton]
    intro hany
    obtain ⟨_, hclass, hname⟩ := List.any_eq_true.mp hany
    obtain ⟨c, hc, rfl⟩ := List.mem_map.mp hclass
    have heq : r.escape c.name = r.escape d.name := of_decide_eq_true hname
    exact hmem (hapart c d (hknown c hc) hd heq ▸ hc)

theorem nodup_name_concat (hnodup : (types.map (·.name)).Nodup)
    (hknown : ∀ c ∈ types, s.input? c.name = some c) (hd : s.input? d.name = some d)
    (hmem : d ∉ types) : ((types ++ [d]).map (·.name)).Nodup := by
  rw [List.map_append, List.nodup_append']
  refine ⟨hnodup, by simp, ?_⟩
  rw [List.map_singleton, List.disjoint_singleton]
  intro hname
  obtain ⟨c, hc, heq⟩ := List.mem_map.mp hname
  have hcd := hknown c hc
  rw [heq, hd] at hcd
  exact hmem (Option.some.inj hcd ▸ hc)

/-- What is put together while the first of the new types are added. A new type needs only what
stands before it and what leads back to it, and what an old one needs is there. -/
theorem exists_types_of_prefix (hapart : NamesApart r s) (hbase : Hoisted s base)
    (hnew : Hoisted s new) (before : List TypeDefinition) :
    ∀ after, new = before ++ after → ∃ types,
      (before.map (classOf r)).foldl Output.addClass (base.map (classOf r)) =
        types.map (classOf r) ∧
      (types.map (·.name)).Nodup ∧ (∀ d, d ∈ types ↔ d ∈ base ∨ d ∈ before) ∧
      Ordered s types := by
  induction before using List.reverseRecOn with
  | nil => exact fun _ _ => ⟨base, rfl, hbase.nodup, by simp, hbase.ordered⟩
  | append_singleton before d ih =>
    intro after hsplit
    obtain ⟨types, hfold, hnodup, hmem, hordered⟩ := ih (d :: after) (by simpa using hsplit)
    have hd : s.input? d.name = some d := hnew.known d (by simp [hsplit])
    have hknown : ∀ c ∈ types, s.input? c.name = some c := by
      intro c hc
      rcases (hmem c).mp hc with hc | hc
      · exact hbase.known c hc
      · exact hnew.known c (by simp [hsplit, hc])
    rw [List.map_append, List.map_singleton, List.foldl_append, hfold, List.foldl_cons,
      List.foldl_nil]
    rcases addClass_classOf hapart hknown hd with ⟨hthere, hadd⟩ | ⟨hnot, hadd⟩
    · refine ⟨types, hadd, hnodup, fun c => ?_, hordered⟩
      rw [hmem, List.mem_append, List.mem_singleton]
      refine ⟨fun h => h.imp_right .inl, ?_⟩
      rintro (hc | hc | rfl)
      · exact .inl hc
      · exact .inr hc
      · exact (hmem c).mp hthere
    · refine ⟨types ++ [d], hadd, nodup_name_concat hnodup hknown hd hnot, fun c => ?_, ?_⟩
      · simp only [List.mem_append, List.mem_singleton, hmem, or_assoc]
      · refine hordered.concat fun b hb x hneeds => ?_
        have hnewSplit : new = before ++ d :: after := by simpa using hsplit
        have hbefore : ∀ b ∈ d :: before, Needs s b x → x ∈ types ∨ Reaches s x d :=
          fun b hb hneeds => (hnew.ordered before d after hnewSplit b hb x hneeds).imp_left
            fun hx => (hmem x).mpr (.inr hx)
        rcases List.mem_cons.mp hb with rfl | hb
        · exact hbefore b List.mem_cons_self hneeds
        · rcases (hmem b).mp hb with hb | hb
          · exact .inl ((hmem x).mpr (.inl (hbase.closed b hb x hneeds)))
          · exact hbefore b (List.mem_cons_of_mem d hb) hneeds

/-- The classes of an operation join those of the operations before it, as their types do. -/
theorem exists_hoisted_append (hapart : NamesApart r s) (hbase : Hoisted s base)
    (hnew : Hoisted s new) : ∃ types,
      (new.map (classOf r)).foldl Output.addClass (base.map (classOf r)) =
        types.map (classOf r) ∧
      Hoisted s types ∧ ∀ d, d ∈ types ↔ d ∈ base ∨ d ∈ new := by
  obtain ⟨types, hfold, hnodup, hmem, hordered⟩ :=
    exists_types_of_prefix hapart hbase hnew new [] (by simp)
  refine ⟨types, hfold, ⟨hnodup, fun d hd => ?_, fun c hc d hneeds => ?_, hordered⟩, hmem⟩
  · exact ((hmem d).mp hd).elim (hbase.known d) (hnew.known d)
  · exact (hmem d).mpr (((hmem c).mp hc).imp (fun hc => hbase.closed c hc d hneeds)
      fun hc => hnew.closed c hc d hneeds)

theorem exists_hoisted_expandVariables (r : Resolver) (s : Schema) (vs : List VariableDefinition) :
    ∃ types, (expandVariables r s vs {}).classes = types.map (classOf r) ∧ Hoisted s types ∧
      ∀ d, d ∈ types ↔ ReachedFrom s vs d := by
  obtain ⟨types, hstands, hreached⟩ := exists_stands_expandVariables r s vs
  exact ⟨types, hstands.classes, hstands.hoisted, hreached⟩

/-- The classes of any number of operations are put together as their types are. -/
theorem exists_hoisted_foldl (hapart : NamesApart r s) (vss : List (List VariableDefinition))
    (hbase : Hoisted s base) : ∃ types,
      (vss.flatMap fun vs => (expandVariables r s vs {}).classes).foldl Output.addClass
        (base.map (classOf r)) = types.map (classOf r) ∧
      Hoisted s types ∧ ∀ d, d ∈ types ↔ d ∈ base ∨ ∃ vs ∈ vss, ReachedFrom s vs d := by
  induction vss generalizing base with
  | nil => exact ⟨base, rfl, hbase, by simp⟩
  | cons vs vss ih =>
    obtain ⟨new, hclasses, hnew, hreached⟩ := exists_hoisted_expandVariables r s vs
    obtain ⟨middle, hmiddle, hhoisted, hmem⟩ := exists_hoisted_append hapart hbase hnew
    obtain ⟨types, hfold, htypes, hall⟩ := ih hhoisted
    refine ⟨types, ?_, htypes, fun d => ?_⟩
    · rw [List.flatMap_cons, List.foldl_append, hclasses, hmiddle, hfold]
    · rw [hall, hmem, hreached, List.exists_mem_cons_iff, or_assoc]

/-- What a type leads to that does not lead back stands before one of the types on a circle with
it. -/
theorem Hoisted.exists_before (h : Hoisted s types) {c d : TypeDefinition} (hc : c ∈ types)
    (hreach : Reaches s c d) (hback : ¬ Reaches s d c) :
    ∃ before c' after, types = before ++ c' :: after ∧
      Reaches s c c' ∧ Reaches s c' c ∧ d ∈ before := by
  obtain ⟨c', x, hcc', hc'c, hneeds, hback', hxd⟩ := exists_last_on_circle hreach hback
  obtain ⟨before, after, hsplit⟩ := List.append_of_mem (mem_of_reaches h.closed hc hcc')
  exact ⟨before, c', after, hsplit, hcc', hc'c, h.ordered.mem_before hsplit hneeds hback' hxd⟩

end Input

end OperationClasses
