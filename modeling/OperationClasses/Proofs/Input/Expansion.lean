import Mathlib.Data.List.Nodup
import Mathlib.Data.List.Perm.Subperm
import OperationClasses.Proofs.Input.Dependencies
import OperationClasses.Proofs.Naming.Meeting

/-!
# The expansion of input types

An expansion finishes a type when all types that it needs were begun. The types that were begun
and are not finished yet lead to the type that is being expanded, so what a finished type needs is
finished or leads back to it. From this follows which classes there are and in which order they
stand, whatever circles the types form.
-/
namespace OperationClasses.Input

open Syntax

variable {r : Resolver} {s : Schema} {begun done new new' : List TypeDefinition} {e e' e'' : Expansion}

/-- The types `begun` wait for types they need, the types `done` are finished, in this order. -/
structure Stands (r : Resolver) (s : Schema) (begun done : List TypeDefinition)
    (e : Expansion) : Prop where
  classes : e.classes = done.map (classOf r)
  seen : ∀ name, name ∈ e.seen ↔ ∃ d ∈ begun ++ done, d.name = name
  nodup : ((begun ++ done).map (·.name)).Nodup
  known : ∀ d ∈ begun ++ done, s.input? d.name = some d
  closed : ∀ c ∈ done, ∀ d, Needs s c d → d ∈ begun ++ done
  ordered : Ordered s done
  met : ∀ c ∈ done, ∀ f ∈ c.inputFields, ∀ name, r.enumMet? f.type = some name → name ∈ e.enums

namespace Stands

theorem initial (r : Resolver) (s : Schema) : Stands r s [] [] {} where
  classes := rfl
  seen := by simp
  nodup := by simp
  known := by simp
  closed := by simp
  ordered := ordered_nil
  met := by simp

theorem mem_seen_iff (h : Stands r s begun done e) {d : TypeDefinition}
    (hd : s.input? d.name = some d) : d.name ∈ e.seen ↔ d ∈ begun ++ done := by
  rw [h.seen]
  constructor
  · rintro ⟨d', hd', hname⟩
    have heq := h.known d' hd'
    rw [hname, hd] at heq
    rwa [Option.some.inj heq]
  · exact fun hmem => ⟨d, hmem, rfl⟩

/-- There are no more begun types than types. -/
theorem length_le (h : Stands r s begun done e) : begun.length + done.length ≤ s.types.length := by
  have hsubset : (begun ++ done).map (·.name) ⊆ s.types.map (·.name) := by
    intro name hname
    obtain ⟨d, hd, rfl⟩ := List.mem_map.mp hname
    exact List.mem_map_of_mem (List.mem_of_find?_eq_some (h.known d hd))
  simpa using (List.subperm_of_subset h.nodup hsubset).length_le

theorem noteEscapes (h : Stands r s begun done e) (names : List String) :
    Stands r s begun done (e.noteEscapes names) :=
  ⟨h.classes, h.seen, h.nodup, h.known, h.closed, h.ordered, h.met⟩

theorem noteEnum (h : Stands r s begun done e) (t : TypeRef) :
    Stands r s begun done (e.noteEnum r t) where
  classes := h.classes
  seen := h.seen
  nodup := h.nodup
  known := h.known
  closed := h.closed
  ordered := h.ordered
  met c hc f hf name hname := mem_meet.mpr (.inl (h.met c hc f hf name hname))

/-- A type is begun. -/
theorem begin (h : Stands r s begun done e) {d : TypeDefinition} (hd : s.input? d.name = some d)
    (hnew : d.name ∉ e.seen) (escaped : List String) :
    Stands r s (d :: begun) done { e with seen := e.seen ++ [d.name], escaped := escaped } where
  classes := h.classes
  seen name := by
    rw [List.mem_append, List.mem_singleton, h.seen, List.cons_append, List.exists_mem_cons_iff,
      or_comm, eq_comm (a := name)]
  nodup := by
    rw [List.cons_append, List.map_cons, List.nodup_cons]
    refine ⟨fun hmem => hnew ?_, h.nodup⟩
    rw [h.seen]
    exact List.mem_map.mp hmem
  known := by
    rw [List.cons_append, List.forall_mem_cons]
    exact ⟨hd, h.known⟩
  closed c hc d' hneeds := List.mem_cons_of_mem d (h.closed c hc d' hneeds)
  ordered := h.ordered
  met := h.met

/-- A type is finished, when all that it needs was begun and the types that wait lead to it. -/
theorem finish {d : TypeDefinition} (h : Stands r s (d :: begun) done e)
    (hneeds : ∀ x, Needs s d x → x ∈ d :: begun ++ done)
    (hbegun : ∀ b ∈ begun, Reaches s b d)
    (hmet : ∀ f ∈ d.inputFields, ∀ name, r.enumMet? f.type = some name → name ∈ e.enums) :
    Stands r s begun (done ++ [d]) { e with classes := e.classes ++ [classOf r d] } := by
  have hperm : (begun ++ (done ++ [d])).Perm (d :: begun ++ done) := by
    rw [← List.append_assoc]
    exact List.perm_append_singleton d (begun ++ done)
  have hclosed : ∀ b ∈ d :: done, ∀ x, Needs s b x → x ∈ d :: begun ++ done := by
    rw [List.forall_mem_cons]
    exact ⟨hneeds, h.closed⟩
  constructor
  · simp [h.classes]
  · intro name
    rw [h.seen]
    simp only [hperm.mem_iff]
  · exact (hperm.map _).nodup_iff.mpr h.nodup
  · exact fun x hx => h.known x (hperm.mem_iff.mp hx)
  · intro c hc x hx
    refine hperm.mem_iff.mpr (hclosed c ?_ x hx)
    simpa [or_comm] using hc
  · refine h.ordered.concat fun b hb x hx => ?_
    have hmem := hclosed b hb x hx
    rw [List.cons_append, List.mem_cons, List.mem_append] at hmem
    rcases hmem with rfl | hwaits | hdone
    · exact .inr .refl
    · exact .inr (hbegun x hwaits)
    · exact .inl hdone
  · intro c hc
    rcases List.mem_append.mp hc with hc | hc
    · exact h.met c hc
    · rw [List.mem_singleton.mp hc]
      exact hmet

end Stands

/-- An expansion goes on and finishes the types `new`: those that it was asked for and types they
lead to. The enumerations `names` were met. -/
structure Finishes (r : Resolver) (s : Schema) (begun done new roots : List TypeDefinition)
    (names : List String) (e e' : Expansion) : Prop where
  stands : Stands r s begun (done ++ new) e'
  reached : ∀ x ∈ new, ∃ root ∈ roots, Reaches s root x
  found : ∀ root ∈ roots, root ∈ begun ++ (done ++ new)
  met : ∀ name ∈ names, name ∈ e'.enums
  kept : e.enums ⊆ e'.enums

namespace Finishes

variable {roots roots' : List TypeDefinition} {names names' : List String}

theorem refl (h : Stands r s begun done e) : Finishes r s begun done [] [] [] e e where
  stands := by simpa using h
  reached := by simp
  found := by simp
  met := by simp
  kept := List.Subset.refl _

theorem trans (h : Finishes r s begun done new roots names e e')
    (h' : Finishes r s begun (done ++ new) new' roots' names' e' e'') :
    Finishes r s begun done (new ++ new') (roots ++ roots') (names ++ names') e e'' where
  stands := by simpa using h'.stands
  reached x hx := by
    rcases List.mem_append.mp hx with hx | hx
    · obtain ⟨root, hroot, hreach⟩ := h.reached x hx
      exact ⟨root, List.mem_append_left _ hroot, hreach⟩
    · obtain ⟨root, hroot, hreach⟩ := h'.reached x hx
      exact ⟨root, List.mem_append_right _ hroot, hreach⟩
  found root hroot := by
    rcases List.mem_append.mp hroot with hroot | hroot
    · have hmem := h.found root hroot
      simp only [List.mem_append] at hmem ⊢
      tauto
    · simpa using h'.found root hroot
  met name hname := by
    rcases List.mem_append.mp hname with hname | hname
    · exact h'.kept (h.met name hname)
    · exact h'.met name hname
  kept := List.Subset.trans h.kept h'.kept

theorem noteEscapes (h : Finishes r s begun done new roots names e e') (escaped : List String) :
    Finishes r s begun done new roots names e (e'.noteEscapes escaped) :=
  ⟨h.stands.noteEscapes escaped, h.reached, h.found, h.met, h.kept⟩

/-- The reference that led to the types is noted. -/
theorem noteEnum (h : Finishes r s begun done new roots [] e e') (t : TypeRef) :
    Finishes r s begun done new roots (r.enumMet? t).toList e (e'.noteEnum r t) where
  stands := h.stands.noteEnum t
  reached := h.reached
  found := h.found
  met _ hname := mem_meet.mpr (.inr (Option.mem_toList.mp hname))
  kept _ hname := mem_meet.mpr (.inl (h.kept hname))

end Finishes

/-- References are followed one after another. -/
theorem exists_finishes_foldl {α : Type} (ref : α → TypeRef) {step : Expansion → α → Expansion}
    {as : List α} {least : ℕ}
    (hstep : ∀ a ∈ as, ∀ done e, least ≤ done.length → Stands r s begun done e →
      ∃ new, Finishes r s begun done new (nested? s (ref a)).toList (r.enumMet? (ref a)).toList
        e (step e a))
    (hleast : least ≤ done.length) (h : Stands r s begun done e) :
    ∃ new, Finishes r s begun done new (as.flatMap fun a => (nested? s (ref a)).toList)
      (as.flatMap fun a => (r.enumMet? (ref a)).toList) e (as.foldl step e) := by
  induction as generalizing done e with
  | nil => exact ⟨[], .refl h⟩
  | cons a as ih =>
    obtain ⟨new, hnew⟩ := hstep a (by simp) done e hleast h
    have hmore : least ≤ (done ++ new).length := by
      rw [List.length_append]
      omega
    obtain ⟨new', hnew'⟩ := ih (fun a ha => hstep a (List.mem_cons_of_mem _ ha)) hmore hnew.stands
    exact ⟨new ++ new', hnew.trans hnew'⟩

/-- What is done for a field of a type. -/
def expandField (r : Resolver) (s : Schema) (fuel : ℕ) (e : Expansion)
    (f : InputValueDefinition) : Expansion :=
  let e := match nested? s f.type with
    | some inner => expandWithin r s fuel inner e
    | none => e
  (e.noteEnum r f.type).noteEscapes ((r.nameEscaped? f.type).toList ++ [f.name])

theorem expandWithin_new {d : TypeDefinition} (h : d.name ∉ e.seen) (fuel : ℕ) :
    expandWithin r s (fuel + 1) d e =
      let e' := d.inputFields.foldl (expandField r s fuel)
        { e with seen := e.seen ++ [d.name], escaped := e.escaped ++ [d.name] }
      { e' with classes := e'.classes ++ [classOf r d] } := by
  rw [expandWithin, if_neg (by simpa using h)]
  rfl

/-- Following a field finishes the type that it leads to, given that expanding this type does. -/
theorem exists_finishes_expandField {fuel : ℕ} {f : InputValueDefinition}
    (h : Stands r s begun done e)
    (hexpand : ∀ x, nested? s f.type = some x →
      ∃ new, Finishes r s begun done new [x] [] e (expandWithin r s fuel x e)) :
    ∃ new, Finishes r s begun done new (nested? s f.type).toList (r.enumMet? f.type).toList e
      (expandField r s fuel e f) := by
  unfold expandField
  cases hnested : nested? s f.type with
  | none => exact ⟨[], ((Finishes.refl h).noteEnum f.type).noteEscapes _⟩
  | some x =>
    obtain ⟨new, hnew⟩ := hexpand x hnested
    exact ⟨new, (hnew.noteEnum f.type).noteEscapes _⟩

/-- Expanding a type that the waiting types lead to finishes it, unless it waits itself. -/
theorem exists_finishes_expandWithin {fuel : ℕ} {d : TypeDefinition}
    (h : Stands r s begun done e) (hd : s.input? d.name = some d)
    (hbegun : ∀ b ∈ begun, Reaches s b d)
    (hfuel : s.types.length < fuel + (begun.length + done.length)) :
    ∃ new, Finishes r s begun done new [d] [] e (expandWithin r s fuel d e) := by
  induction fuel generalizing d begun done e with
  | zero =>
    have := h.length_le
    omega
  | succ fuel ih =>
    by_cases hseen : d.name ∈ e.seen
    · have hagain : expandWithin r s (fuel + 1) d e = e := by
        rw [expandWithin, if_pos (by simpa using hseen)]
      rw [hagain]
      exact ⟨[], by simpa using h, by simp, by simpa using (h.mem_seen_iff hd).mp hseen, by simp,
        List.Subset.refl _⟩
    · have hbegin := h.begin hd hseen (e.escaped ++ [d.name])
      have hfield : ∀ f ∈ d.inputFields, ∀ done' e', done.length ≤ done'.length →
          Stands r s (d :: begun) done' e' →
          ∃ new, Finishes r s (d :: begun) done' new (nested? s f.type).toList
            (r.enumMet? f.type).toList e' (expandField r s fuel e' f) := by
        intro f hf done' e' hlength h'
        refine exists_finishes_expandField h' fun x hnested => ?_
        have hx : Needs s d x := ⟨f, hf, hnested⟩
        have hwaiting : ∀ b ∈ d :: begun, Reaches s b x := by
          rw [List.forall_mem_cons]
          exact ⟨.single hx, fun b hb => (hbegun b hb).tail hx⟩
        have hroom : s.types.length < fuel + ((d :: begun).length + done'.length) := by
          rw [List.length_cons]
          omega
        exact ih h' hx.input? hwaiting hroom
      obtain ⟨new, hnew⟩ := exists_finishes_foldl (fun f : InputValueDefinition => f.type) hfield
        (Nat.le_refl _) hbegin
      have hneeds : ∀ x, Needs s d x → x ∈ d :: begun ++ (done ++ new) := by
        rintro x ⟨f, hf, hx⟩
        exact hnew.found x (List.mem_flatMap.mpr ⟨f, hf, by simp [hx]⟩)
      have hmet : ∀ f ∈ d.inputFields, ∀ name, r.enumMet? f.type = some name →
          name ∈ (d.inputFields.foldl (expandField r s fuel)
            { e with seen := e.seen ++ [d.name], escaped := e.escaped ++ [d.name] }).enums :=
        fun f hf name hname => hnew.met name (List.mem_flatMap.mpr ⟨f, hf, by simp [hname]⟩)
      refine ⟨new ++ [d], ?_, ?_, by simp, by simp, ?_⟩
      · rw [expandWithin_new hseen, ← List.append_assoc]
        exact hnew.stands.finish hneeds hbegun hmet
      · simp only [List.mem_append, List.mem_singleton, exists_eq_left]
        rintro x (hx | rfl)
        · obtain ⟨root, hroot, hreach⟩ := hnew.reached x hx
          obtain ⟨f, hf, hroot⟩ := List.mem_flatMap.mp hroot
          exact .head ⟨f, hf, Option.mem_toList.mp hroot⟩ hreach
        · exact .refl
      · rw [expandWithin_new hseen]
        exact hnew.kept

theorem exists_finishes_expand (h : Stands r s [] done e) (t : TypeRef) :
    ∃ new, Finishes r s [] done new (nested? s t).toList [] e (expand r s t.name? e) := by
  have hexpand : expand r s t.name? e = match nested? s t with
    | some d => (expandWithin r s (s.types.length + 1) d e).noteEscapes [d.name]
    | none => e := rfl
  rw [hexpand]
  cases hnested : nested? s t with
  | none => exact ⟨[], .refl h⟩
  | some d =>
    have hroom : s.types.length < s.types.length + 1 + (([] : List TypeDefinition).length +
        done.length) := by
      omega
    obtain ⟨new, hnew⟩ := exists_finishes_expandWithin h (input?_of_nested? hnested) (by simp) hroom
    exact ⟨new, hnew.noteEscapes [d.name]⟩

/-- Expanding the types of variables finishes them and what they lead to. -/
theorem exists_finishes_expandVariables (r : Resolver) (s : Schema)
    (vs : List VariableDefinition) :
    ∃ types, Finishes r s [] [] types (vs.flatMap fun v => (nested? s v.type).toList)
      (vs.flatMap fun v => (r.enumMet? v.type).toList) {} (expandVariables r s vs {}) := by
  refine exists_finishes_foldl (fun v : VariableDefinition => v.type) ?_ (Nat.zero_le _)
    (.initial r s)
  intro v _ done e _ h
  obtain ⟨new, hnew⟩ := exists_finishes_expand h v.type
  exact ⟨new, (hnew.noteEnum v.type).noteEscapes _⟩

/-- Finished types are closed: they hold all that they lead to. -/
theorem Stands.mem_of_reaches (h : Stands r s [] done e) {c d : TypeDefinition} (hc : c ∈ done)
    (hreach : Reaches s c d) : d ∈ done :=
  Input.mem_of_reaches (by simpa using h.closed) hc hreach

/-- The types that variables finish are those that they lead to. -/
theorem exists_stands_expandVariables (r : Resolver) (s : Schema) (vs : List VariableDefinition) :
    ∃ types, Stands r s [] types (expandVariables r s vs {}) ∧
      ∀ d, d ∈ types ↔ ReachedFrom s vs d := by
  obtain ⟨types, h⟩ := exists_finishes_expandVariables r s vs
  have hstands : Stands r s [] types (expandVariables r s vs {}) := by simpa using h.stands
  refine ⟨types, hstands, fun d => ⟨fun hd => ?_, ?_⟩⟩
  · obtain ⟨root, hroot, hreach⟩ := h.reached d hd
    obtain ⟨v, hv, hroot⟩ := List.mem_flatMap.mp hroot
    exact ⟨v, hv, root, Option.mem_toList.mp hroot, hreach⟩
  · rintro ⟨v, hv, root, hroot, hreach⟩
    have hmem := h.found root (List.mem_flatMap.mpr ⟨v, hv, by simp [hroot]⟩)
    exact hstands.mem_of_reaches (by simpa using hmem) hreach

end OperationClasses.Input
