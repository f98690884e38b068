import OperationClasses.Resolver

/-!
# Where references arrive

Spelling a reference goes through it from the outside to the name at its heart and looks every
level up in the table of overrides. It arrives at the name when no level on the way is in the table.
An enumeration is met when a reference arrives at its name.
-/
namespace OperationClasses

namespace Resolver

/-- No override is found at a level: its text is no key of the table. -/
def Passes (r : Resolver) (t : TypeRef) : Prop :=
  ∃ key, t.key? = some key ∧ key ∉ r.overrides.map (·.1)

/-- Following a reference to its heart passes every level that is looked up. A mark is looked up
together with what it stands behind; a name behind a mark is looked up once more without it, a list
behind a mark is not. -/
inductive Arrives (r : Resolver) : TypeRef → String → Prop where
  | named {name : String} : r.Passes (.named (some name)) → Arrives r (.named (some name)) name
  | list {e : TypeRef} {name : String} : r.Passes (.list e) → Arrives r e name →
      Arrives r (.list e) name
  | nonNullNamed {name : String} : r.Passes (.nonNull (.named (some name))) →
      r.Passes (.named (some name)) → Arrives r (.nonNull (.named (some name))) name
  | nonNullList {e : TypeRef} {name : String} : r.Passes (.nonNull (.list e)) →
      Arrives r e name → Arrives r (.nonNull (.list e)) name

variable {r : Resolver} {t e : TypeRef} {name : String}

/-- A reference that arrives somewhere passes its outermost level. -/
theorem Arrives.passes (h : r.Arrives t name) : r.Passes t := by
  cases h <;> assumption

theorem Passes.signature? (h : r.Passes t) : t.signature?.isSome := by
  obtain ⟨key, hkey, -⟩ := h
  simp [TypeRef.signature?_of_key? hkey]

theorem override?_isSome_iff (ht : t.key?.isSome) :
    (r.override? none t).isSome ↔ ¬ r.Passes t := by
  obtain ⟨key, hkey⟩ := Option.isSome_iff_exists.mp ht
  have hpasses : r.Passes t ↔ key ∉ r.overrides.map (·.1) := by
    simp [Passes, hkey]
  rw [hpasses, Decidable.not_not, override?, hkey, Option.bind_some, List.lookup_isSome_iff,
    List.mem_map]
  exact exists_congr fun entry => and_congr_right fun _ => by rw [beq_iff_eq, eq_comm]

theorem override?_eq_none (h : r.Passes t) : r.override? none t = none := by
  have hkey : t.key?.isSome := by
    obtain ⟨key, hkey, -⟩ := h
    simp [hkey]
  rw [← Option.not_isSome_iff_eq_none, override?_isSome_iff hkey]
  exact fun hnot => hnot h

/-- A name that is looked up stands for an enumeration when it passes and the schema has one. -/
theorem enumNamed?_eq_some_iff {name' : String} : r.enumNamed? name' = some name ↔
    (r.Passes (.named (some name')) ∧ name' = name) ∧ (r.schema?.bind (·.enum? name)).isSome := by
  have hlookup : (r.overrides.lookup name').isSome ↔ ¬ r.Passes (.named (some name')) :=
    override?_isSome_iff (t := .named (some name')) rfl
  unfold enumNamed?
  by_cases hpasses : r.Passes (.named (some name'))
  · rw [if_neg (by simpa [hlookup] using hpasses)]
    by_cases henum : (r.schema?.bind (·.enum? name')).isSome
    · rw [if_pos henum, Option.some.injEq]
      exact ⟨fun heq => ⟨⟨hpasses, heq⟩, heq ▸ henum⟩, fun h => h.1.2⟩
    · rw [if_neg henum]
      exact ⟨fun h => (nomatch h), fun h => absurd (h.1.2 ▸ h.2) henum⟩
  · rw [if_pos (hlookup.mpr hpasses)]
    exact ⟨fun h => (nomatch h), fun h => absurd h.1.1 hpasses⟩

theorem isSome_signature?_of_list (h : (TypeRef.list e).signature?.isSome) :
    e.signature?.isSome := by
  cases he : e.signature? with
  | none => simp [TypeRef.signature?, he] at h
  | some key => rfl

theorem isSome_signature?_of_nonNull (h : (TypeRef.nonNull e).signature?.isSome) :
    e.signature?.isSome := by
  cases he : e.signature? with
  | none => simp [TypeRef.signature?, he] at h
  | some key => rfl

/-- Where an override is found, no enumeration is met. -/
theorem enumIn?_of_not_passes (ht : t.signature?.isSome) (h : ¬ r.Passes t) :
    r.enumIn? t = none := by
  match t with
  | .named none => simp [TypeRef.signature?] at ht
  | .named (some name') => rw [enumIn?, if_pos ((override?_isSome_iff (by exact ht)).mpr h)]
  | .list e => rw [enumIn?, if_pos ((override?_isSome_iff (by exact ht)).mpr h)]
  | .nonNull t => rw [enumIn?, if_pos ((override?_isSome_iff (by exact ht)).mpr h)]
  | .misnamed _ => rw [enumIn?]
  | .tableNamed _ => rw [enumIn?]
  | .other stray => rw [enumIn?]

theorem enumIn?_named {name' : String} (h : r.Passes (.named (some name'))) :
    r.enumIn? (.named (some name')) = r.enumNamed? name' := by
  simp [enumIn?, override?_eq_none h]

theorem enumIn?_list (h : r.Passes (.list e)) : r.enumIn? (.list e) = r.enumIn? e := by
  simp [enumIn?, override?_eq_none h]

theorem enumIn?_nonNull (h : r.Passes (.nonNull t)) :
    r.enumIn? (.nonNull t) = r.enumBehind? t := by
  simp [enumIn?, override?_eq_none h]

/-- Nothing is met, and nowhere arrived at, unless the outermost level passes. -/
theorem enumIn?_iff_of_passes (ht : t.signature?.isSome) {isEnum : Prop}
    (h : r.Passes t → (r.enumIn? t = some name ↔ r.Arrives t name ∧ isEnum)) :
    r.enumIn? t = some name ↔ r.Arrives t name ∧ isEnum := by
  by_cases hpasses : r.Passes t
  · exact h hpasses
  · rw [enumIn?_of_not_passes ht hpasses]
    exact ⟨fun h => (nomatch h), fun h => absurd h.1.passes hpasses⟩

/-- The enumeration that a reference spells is the one of the schema it arrives at. -/
theorem enumIn?_eq_some_iff : ∀ {t : TypeRef}, t.signature?.isSome →
    (r.enumIn? t = some name ↔ r.Arrives t name ∧ (r.schema?.bind (·.enum? name)).isSome)
  | .named none, ht => by simp [TypeRef.signature?] at ht
  | .named (some name'), ht => by
    refine enumIn?_iff_of_passes ht fun h => ?_
    rw [enumIn?_named h, enumNamed?_eq_some_iff]
    refine and_congr_left fun _ => ⟨?_, ?_⟩
    · rintro ⟨hpasses, rfl⟩
      exact .named hpasses
    · rintro ⟨hpasses⟩
      exact ⟨hpasses, rfl⟩
  | .list e, ht => by
    refine enumIn?_iff_of_passes ht fun h => ?_
    rw [enumIn?_list h, enumIn?_eq_some_iff (isSome_signature?_of_list ht)]
    refine and_congr_left fun _ => ⟨.list h, ?_⟩
    rintro (_ | ⟨-, harrives⟩)
    exact harrives
  | .nonNull (.named none), ht => by simp [TypeRef.signature?] at ht
  | .nonNull (.named (some name')), ht => by
    refine enumIn?_iff_of_passes ht fun h => ?_
    rw [enumIn?_nonNull h, enumBehind?, enumNamed?_eq_some_iff]
    refine and_congr_left fun _ => ⟨?_, ?_⟩
    · rintro ⟨hpasses, rfl⟩
      exact .nonNullNamed h hpasses
    · rintro (_ | _ | ⟨-, hpasses⟩)
      exact ⟨hpasses, rfl⟩
  | .nonNull (.list e), ht => by
    refine enumIn?_iff_of_passes ht fun h => ?_
    have he := isSome_signature?_of_list (isSome_signature?_of_nonNull ht)
    rw [enumIn?_nonNull h, enumBehind?, enumIn?_eq_some_iff he]
    refine and_congr_left fun _ => ⟨.nonNullList h, ?_⟩
    rintro (_ | _ | _ | ⟨-, harrives⟩)
    exact harrives
  | .nonNull (.nonNull t), ht => by
    refine enumIn?_iff_of_passes ht fun h => ?_
    rw [enumIn?_nonNull h, enumBehind?]
    exact ⟨fun h => (nomatch h), fun h => (nomatch h.1)⟩
  | .nonNull (.tableNamed members), ht => by
    refine enumIn?_iff_of_passes ht fun h => ?_
    rw [enumIn?_nonNull h, enumBehind?]
    exact ⟨fun h => (nomatch h), fun h => (nomatch h.1)⟩
  | .tableNamed members, _ => by
    rw [enumIn?]
    exact ⟨fun h => (nomatch h), fun h => (nomatch h.1)⟩
  | .nonNull (.misnamed inside), ht => by simp [TypeRef.signature?] at ht
  | .misnamed inside, ht => by simp [TypeRef.signature?] at ht
  | .nonNull (.other stray), ht => by simp [TypeRef.signature?] at ht
  | .other stray, ht => by simp [TypeRef.signature?] at ht

/-- An enumeration is met exactly if it is one of the schema and the reference arrives at it. -/
theorem enumMet?_eq_some_iff : r.enumMet? t = some name ↔
    r.Arrives t name ∧ (r.schema?.bind (·.enum? name)).isSome := by
  unfold enumMet?
  cases ht : t.signature?.isSome with
  | true =>
    rw [if_neg (by simp [Option.isNone_iff_eq_none, Option.isSome_iff_ne_none.mp ht])]
    exact enumIn?_eq_some_iff ht
  | false =>
    rw [if_pos (by simpa using ht)]
    exact ⟨fun h => (nomatch h), fun h => absurd h.1.passes.signature? (by simp [ht])⟩

end Resolver

end OperationClasses
