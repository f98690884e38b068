import Mathlib.Logic.Relation
import OperationClasses.Classes.Input
import OperationClasses.Proofs.Naming.Names

/-!
# Dependencies between input types

An input type needs the input types that its fields refer to. Types may need each other in
circles, and then no order puts every type behind all that it leads to. An order can still put a
type behind everything that does not lead back to it.
-/
namespace OperationClasses.Input

open Syntax

/-- A field of an input type refers to another one. -/
def Needs (s : Schema) (c d : TypeDefinition) : Prop :=
  ∃ f ∈ c.inputFields, nested? s f.type = some d

/-- Fields lead from an input type to another one, in any number of steps. -/
abbrev Reaches (s : Schema) : TypeDefinition → TypeDefinition → Prop :=
  Relation.ReflTransGen (Needs s)

/-- The input types that variables lead to. -/
def ReachedFrom (s : Schema) (vs : List VariableDefinition) (d : TypeDefinition) : Prop :=
  ∃ v ∈ vs, ∃ root, nested? s v.type = some root ∧ Reaches s root d

variable {s : Schema} {c d x : TypeDefinition}

theorem input?_of_nested? {t : TypeRef} (h : nested? s t = some d) : s.input? d.name = some d := by
  obtain ⟨name, -, hname⟩ := Option.bind_eq_some_iff.mp h
  rwa [s.name_of_find? hname]

theorem Needs.input? (h : Needs s c d) : s.input? d.name = some d := by
  obtain ⟨f, -, hf⟩ := h
  exact input?_of_nested? hf

/-- Types that hold all that they need hold all that they lead to. -/
theorem mem_of_reaches {types : List TypeDefinition}
    (hclosed : ∀ c ∈ types, ∀ d, Needs s c d → d ∈ types) (hc : c ∈ types)
    (hreach : Reaches s c d) : d ∈ types := by
  induction hreach with
  | refl => exact hc
  | tail _ hneeds ih => exact hclosed _ ih _ hneeds

/-- Where a type stands in a list, it and all types before it need only types before it and
types that lead back to it. -/
def Ordered (s : Schema) (types : List TypeDefinition) : Prop :=
  ∀ before c after, types = before ++ c :: after →
    ∀ b ∈ c :: before, ∀ d, Needs s b d → d ∈ before ∨ Reaches s d c

theorem ordered_nil : Ordered s [] := by
  intro before c after h
  simp at h

theorem Ordered.concat {types : List TypeDefinition} (h : Ordered s types)
    (hc : ∀ b ∈ c :: types, ∀ d, Needs s b d → d ∈ types ∨ Reaches s d c) :
    Ordered s (types ++ [c]) := by
  intro before c' after heq
  rcases List.eq_nil_or_concat after with rfl | ⟨after, last, rfl⟩
  · obtain ⟨rfl, hlast⟩ := List.append_inj' heq rfl
    obtain rfl : c = c' := by simpa using hlast
    exact hc
  · have hsplit : types ++ [c] = (before ++ c' :: after) ++ [last] := by simpa using heq
    exact h before c' after (List.append_inj' hsplit rfl).1

/-- A type that does not lead back to one that needs it stands before it, with all that it leads
to. -/
theorem Ordered.mem_before {types before after : List TypeDefinition} (h : Ordered s types)
    (hsplit : types = before ++ c :: after) (hneeds : Needs s c x) (hback : ¬ Reaches s x c)
    (hreach : Reaches s x d) : d ∈ before := by
  induction hreach with
  | refl => exact (h before c after hsplit c (by simp) x hneeds).resolve_right hback
  | @tail b d hxb hbd ih =>
    refine (h before c after hsplit b (List.mem_cons_of_mem c ih) d hbd).resolve_right ?_
    exact fun hdc => hback ((hxb.tail hbd).trans hdc)

/-- On the way to a type that does not lead back, some type is the last one on a circle with the
first. -/
theorem exists_last_on_circle (h : Reaches s c d) (hback : ¬ Reaches s d c) :
    ∃ c' x, Reaches s c c' ∧ Reaches s c' c ∧ Needs s c' x ∧ ¬ Reaches s x c' ∧ Reaches s x d := by
  induction h using Relation.ReflTransGen.head_induction_on with
  | refl => exact absurd .refl hback
  | @head c b hcb hbd ih =>
    by_cases hbc : Reaches s b c
    · have hdb : ¬ Reaches s d b := fun hdb => hback (hdb.trans hbc)
      obtain ⟨c', x, hbc', hc'b, hrest⟩ := ih hdb
      exact ⟨c', x, .head hcb hbc', hc'b.trans hbc, hrest⟩
    · exact ⟨c, b, .refl, .refl, hcb, hbc, hbd⟩

end OperationClasses.Input
