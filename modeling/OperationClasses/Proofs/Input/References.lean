import OperationClasses.Proofs.Input.Expansion
import OperationClasses.Proofs.Selection.Expansion

/-!
# References of variables

Which references are spelled for the variables of an operation, and in which order, is a depth-first
reading: the fields of the input type that a reference leads to are read before the reference
itself. The expansion of input types reads each type once, so it meets the enumerations where the
reading meets them first.
-/
namespace OperationClasses.Input

open Syntax OperationClasses.Expansion

variable {r : Resolver} {s : Schema}

/-- A reference as steps of a reading: the type it leads to, then the reference. -/
def steps (s : Schema) (t : TypeRef) : List (Step TypeRef) :=
  (nested? s t).toList.map (fun d => .enter d.name) ++ [.say t]

/-- The references of an input type's fields, as steps. -/
def bodies (s : Schema) : Bodies TypeRef := fun name =>
  (s.input? name).map fun d => d.inputFields.flatMap fun f => steps s f.type

/-- The names of all types. -/
def stock (s : Schema) : List String := s.types.map (·.name)

/-- The references of variables and of the fields of the types they lead to, depth first. -/
def references (s : Schema) (vs : List VariableDefinition) : List TypeRef :=
  along (bodies s) ((stock s).length + 1) [] (vs.flatMap fun v => steps s v.type)

theorem bodies_mem_stock (name : String) (body : List (Step TypeRef))
    (h : bodies s name = some body) : name ∈ stock s := by
  obtain ⟨d, hd, -⟩ := Option.map_eq_some_iff.mp h
  rw [← s.name_of_find? hd]
  exact List.mem_map_of_mem (List.mem_of_find?_eq_some hd)

theorem bodies_of_nested? {t : TypeRef} {d : TypeDefinition} (h : nested? s t = some d) :
    bodies s d.name = some (d.inputFields.flatMap fun f => steps s f.type) := by
  rw [bodies, input?_of_nested? h, Option.map_some]

theorem leadsTo_of_reaches {c d : TypeDefinition} (h : Reaches s c d) {f : InputValueDefinition}
    (hf : f ∈ d.inputFields) :
    LeadsTo (bodies s) (c.inputFields.flatMap fun f => steps s f.type) f.type := by
  induction h using Relation.ReflTransGen.head_induction_on with
  | refl => exact .here (List.mem_flatMap.mpr ⟨f, hf, by simp [steps]⟩)
  | @head c x hneeds _ ih =>
    obtain ⟨g, hg, hx⟩ := hneeds
    exact .inside (List.mem_flatMap.mpr ⟨g, hg, by simp [steps, hx]⟩) (bodies_of_nested? hx) ih

/-- A reading leads to references of its own and to those of the types it reaches. -/
theorem leadsTo_cases {text : List (Step TypeRef)} {t : TypeRef} (h : LeadsTo (bodies s) text t)
    (ts : List TypeRef) (htext : text = ts.flatMap (steps s)) :
    t ∈ ts ∨ ∃ u ∈ ts, ∃ c, nested? s u = some c ∧ ∃ d, Reaches s c d ∧
      ∃ f ∈ d.inputFields, f.type = t := by
  induction h generalizing ts with
  | @here _ a hmem =>
    rw [htext] at hmem
    obtain ⟨u, hu, hmem⟩ := List.mem_flatMap.mp hmem
    have heq : a = u := by simpa [steps] using hmem
    exact .inl (heq ▸ hu)
  | inside hmem hbody _ ih =>
    rw [htext] at hmem
    obtain ⟨u, hu, hmem⟩ := List.mem_flatMap.mp hmem
    obtain ⟨c, hc, rfl⟩ : ∃ c, nested? s u = some c ∧ c.name = _ := by simpa [steps] using hmem
    obtain rfl := Option.some.inj ((bodies_of_nested? hc).symm.trans hbody)
    refine .inr ⟨u, hu, c, hc, ?_⟩
    rcases ih (c.inputFields.map (·.type)) (List.flatMap_map ..).symm with ht | ⟨_, ht, hx⟩
    · obtain ⟨f, hf, rfl⟩ := List.mem_map.mp ht
      exact ⟨c, .refl, f, hf, rfl⟩
    · obtain ⟨f, hf, rfl⟩ := List.mem_map.mp ht
      obtain ⟨x, hx, d, hreach, hfield⟩ := hx
      exact ⟨d, .head ⟨f, hf, hx⟩ hreach, hfield⟩

/-- The references that are read are those of the variables and of the fields of all types they
reach. -/
theorem mem_references_iff {vs : List VariableDefinition} {t : TypeRef} :
    t ∈ references s vs ↔ (∃ v ∈ vs, v.type = t) ∨
      ∃ d, ReachedFrom s vs d ∧ ∃ f ∈ d.inputFields, f.type = t := by
  rw [references, mem_along_iff bodies_mem_stock]
  constructor
  · intro h
    rcases leadsTo_cases h (vs.map (·.type)) (List.flatMap_map ..).symm with
      ht | ⟨u, hu, c, hc, d, hreach, hfield⟩
    · exact .inl (by simpa using ht)
    · obtain ⟨v, hv, rfl⟩ := List.mem_map.mp hu
      exact .inr ⟨d, ⟨v, hv, c, hc, hreach⟩, hfield⟩
  · rintro (⟨v, hv, rfl⟩ | ⟨d, ⟨v, hv, c, hc, hreach⟩, f, hf, rfl⟩)
    · exact .here (List.mem_flatMap.mpr ⟨v, hv, by simp [steps]⟩)
    · exact .inside (List.mem_flatMap.mpr ⟨v, hv, by simp [steps, hc]⟩) (bodies_of_nested? hc)
        (leadsTo_of_reaches hreach hf)

/-- A walk has entered the types that an expansion has begun, and said the references whose
enumerations the expansion has met. -/
structure Tracks (r : Resolver) (w : Walk TypeRef) (e : Expansion) : Prop where
  visited : ∀ name, name ∈ w.visited ↔ name ∈ e.seen
  enums : e.enums = meetAll [] (w.said.filterMap r.enumMet?)

variable {fuel : ℕ} {w : Walk TypeRef} {e : Expansion}

/-- A reference is said and spelled. -/
theorem Tracks.say (h : Tracks r w e) (t : TypeRef) (escaped : List String) :
    Tracks r { w with said := w.said ++ [t] } ((e.noteEnum r t).noteEscapes escaped) where
  visited := h.visited
  enums := by
    have hmet : ((e.noteEnum r t).noteEscapes escaped).enums = meet e.enums (r.enumMet? t) := rfl
    rw [hmet, h.enums, List.filterMap_append, meetAll_append]
    cases ht : r.enumMet? t with
    | none => simp [ht, meet, meetAll]
    | some name => simp [ht, meetAll]

/-- A reference is followed once it is known that the type it leads to is. -/
theorem Tracks.reference {t : TypeRef} {e' : Expansion}
    (h : Tracks r (once (bodies s) (fuel + 1) ((nested? s t).toList.map fun d => .enter d.name) w) e')
    (escaped : List String) :
    Tracks r (once (bodies s) (fuel + 1) (steps s t) w) ((e'.noteEnum r t).noteEscapes escaped) := by
  rw [steps, once_append]
  have hsay := h.say t escaped
  simpa [once] using hsay

/-- References are followed one after another. -/
theorem tracks_foldl {α : Type} (ref : α → TypeRef) (step : Expansion → α → Expansion)
    (hstep : ∀ a w e, Room (stock s) (fuel + 1) w.visited → Tracks r w e →
      Tracks r (once (bodies s) (fuel + 1) (steps s (ref a)) w) (step e a))
    (hroom : Room (stock s) (fuel + 1) w.visited) (h : Tracks r w e) (as : List α) :
    Tracks r (once (bodies s) (fuel + 1) (as.flatMap fun a => steps s (ref a)) w)
      (as.foldl step e) := by
  induction as generalizing w e with
  | nil => simpa using h
  | cons a as ih =>
    rw [List.flatMap_cons, once_append]
    exact ih (hroom.once bodies_mem_stock _ _) (hstep a w e hroom h)

/-- A type is expanded and entered; one that was begun before is passed over by both. -/
theorem tracks_expandWithin {d : TypeDefinition} (hroom : Room (stock s) (fuel + 1) w.visited)
    (h : Tracks r w e) {t : TypeRef} (hd : nested? s t = some d) :
    Tracks r (once (bodies s) (fuel + 1) [.enter d.name] w) (expandWithin r s fuel d e) := by
  induction fuel generalizing d t w e with
  | zero =>
    have hstock := bodies_mem_stock d.name _ (bodies_of_nested? hd)
    have hvisited : d.name ∈ w.visited := by
      by_contra hnew
      exact absurd (hroom.enter hstock hnew).pos (by simp)
    simpa [once, hvisited, expandWithin] using h
  | succ fuel ih =>
    have hbody := bodies_of_nested? hd
    have hstock := bodies_mem_stock d.name _ hbody
    by_cases hvisited : d.name ∈ w.visited
    · have hseen : d.name ∈ e.seen := (h.visited d.name).mp hvisited
      simpa [once, hvisited, expandWithin, hseen] using h
    · have hseen : d.name ∉ e.seen := fun hseen => hvisited ((h.visited d.name).mpr hseen)
      rw [once_enter _ _ hvisited hbody, expandWithin_new hseen]
      have hbegun : Tracks r { w with visited := d.name :: w.visited }
          { e with seen := e.seen ++ [d.name], escaped := e.escaped ++ [d.name] } :=
        ⟨fun name => by simp [h.visited name, or_comm], h.enums⟩
      have hfields := tracks_foldl (fun f : InputValueDefinition => f.type)
        (expandField r s fuel) ?_ (hroom.enter hstock hvisited) hbegun d.inputFields
      · exact ⟨hfields.visited, hfields.enums⟩
      · intro f w e hroom h
        refine Tracks.reference ?_ _
        cases hnested : nested? s f.type with
        | none => simpa using h
        | some inner => exact ih hroom h hnested

/-- The enumerations that are met while variables are expanded stand in the order in which the
references are read. -/
theorem enums_expandVariables (r : Resolver) (s : Schema) (vs : List VariableDefinition) :
    (expandVariables r s vs {}).enums =
      ((references s vs).filterMap r.enumMet?).eraseDups := by
  have hlength : (stock s).length = s.types.length := List.length_map ..
  have hroom : Room (stock s) (s.types.length + 1 + 1) (⟨[], []⟩ : Walk TypeRef).visited :=
    ⟨List.nodup_nil, List.nil_subset _, by rw [hlength]; simp⟩
  have htracks : Tracks r (once (bodies s) (s.types.length + 1 + 1)
      (vs.flatMap fun v => steps s v.type) ⟨[], []⟩) (expandVariables r s vs {}) := by
    refine tracks_foldl (fun v : VariableDefinition => v.type) _ ?_ hroom ⟨by simp, rfl⟩ vs
    intro v w e hroom h
    refine Tracks.reference ?_ _
    cases hnested : nested? s v.type with
    | none =>
      have hexpand : expand r s v.type.name? e = e := by
        rw [expand, ← nested?, hnested]
      simpa [hexpand] using h
    | some d =>
      have hexpand : expand r s v.type.name? e =
          (expandWithin r s (s.types.length + 1) d e).noteEscapes [d.name] := by
        rw [expand, ← nested?, hnested]
      have hd := tracks_expandWithin hroom h hnested
      rw [hexpand]
      exact ⟨hd.visited, hd.enums⟩
  have hsettled : Settled (bodies s) (stock s) [] (⟨[], []⟩ : Walk TypeRef) :=
    ⟨by simp, by simp, by simp, by simp⟩
  obtain ⟨new, hnew, hthin⟩ := (once_advance bodies_mem_stock (.initial (stock s)) hroom hsettled
    (vs.flatMap fun v => steps s v.type)).thinned
  rw [htracks.enums, hnew, List.nil_append, meetAll_nil]
  exact (hthin.filterMap r.enumMet?).eraseDups_eq.symm

end OperationClasses.Input
