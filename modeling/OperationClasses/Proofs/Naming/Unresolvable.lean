import OperationClasses.Proofs.Generation.Concatenation
import OperationClasses.Proofs.Naming.Wrappers

/-!
# References that cannot be resolved

Any nesting of marks and lists may stand where a reference is expected, around anything. It cannot
be resolved when there is no name at its heart. Apart from that only one thing is wrong, a mark
right behind a mark, and only where spelling gets to it: what an override is found for is not looked
into, and around a given leaf there are no overrides.

Reading the heart breaks off where something that has no name stands for the name, and where a
table does, which cannot be looked up. What is no reference is shown, which breaks off at integers
of too many digits.
-/
namespace OperationClasses

namespace TypeRef

variable {t : TypeRef}

/-- What stands inside all lists and marks. -/
def heart : TypeRef → TypeRef
  | .list e => e.heart
  | .nonNull t => t.heart
  | t => t

theorem exists_heart : ∀ t : TypeRef, (∃ name?, t.heart = .named name?) ∨
    (∃ inside, t.heart = .misnamed inside) ∨ (∃ members, t.heart = .tableNamed members) ∨
      ∃ stray, t.heart = .other stray
  | .list e => exists_heart e
  | .nonNull t => exists_heart t
  | .named name? => .inl ⟨name?, rfl⟩
  | .misnamed inside => .inr (.inl ⟨inside, rfl⟩)
  | .tableNamed members => .inr (.inr (.inl ⟨members, rfl⟩))
  | .other stray => .inr (.inr (.inr ⟨stray, rfl⟩))

theorem name?_heart : ∀ t : TypeRef, t.heart.name? = t.name?
  | .list e => name?_heart e
  | .nonNull t => name?_heart t
  | .named _ | .misnamed _ | .tableNamed _ | .other _ => rfl

@[simp] theorem heart_element : ∀ t : TypeRef, t.element.heart = t.heart
  | .list e => heart_element e
  | .nonNull (.list e) => heart_element e
  | .nonNull (.named _) | .nonNull (.nonNull _) | .nonNull (.misnamed _)
  | .nonNull (.tableNamed _) | .nonNull (.other _)
  | .named _ | .misnamed _ | .tableNamed _ | .other _ => rfl

/-- Around a heart without a text nothing has one. -/
theorem signature?_eq_none : ∀ {t : TypeRef}, t.heart.signature? = none → t.signature? = none
  | .list e, h => by simp [signature?, signature?_eq_none (t := e) h]
  | .nonNull t, h => by simp [signature?, signature?_eq_none (t := t) h]
  | .named _, h | .misnamed _, h | .tableNamed _, h | .other _, h => h

/-- Around a heart with a text that is not empty everything has one. -/
theorem exists_signature? {text : String} (htext : text ≠ "") :
    ∀ {t : TypeRef}, t.heart.signature? = some text → ∃ key, t.signature? = some key ∧ key ≠ ""
  | .list e, h => by
    obtain ⟨key, hkey, hne⟩ := exists_signature? htext (t := e) h
    exact ⟨"[" ++ key ++ "]", by simp [signature?, hkey, nonEmpty?, hne], by simp⟩
  | .nonNull t, h => by
    obtain ⟨key, hkey, hne⟩ := exists_signature? htext (t := t) h
    exact ⟨key ++ "!", by simp [signature?, hkey, nonEmpty?, hne], by simp⟩
  | .named _, h | .misnamed _, h | .tableNamed _, h | .other _, h => ⟨text, h, htext⟩

/-- A wrapper around an empty text has none. -/
theorem signature?_of_wraps_empty : ∀ {t : TypeRef}, t ≠ t.heart →
    t.heart.signature? = some "" → t.signature? = none
  | .list e, _, h => by
    by_cases he : e = e.heart
    · have hempty : e.signature? = some "" := by rw [he]; exact h
      simp [signature?, hempty, nonEmpty?]
    · simp [signature?, signature?_of_wraps_empty he h]
  | .nonNull t, _, h => by
    by_cases ht : t = t.heart
    · have hempty : t.signature? = some "" := by rw [ht]; exact h
      simp [signature?, hempty, nonEmpty?]
    · simp [signature?, signature?_of_wraps_empty ht h]
  | .named _, hne, _ | .misnamed _, hne, _ | .tableNamed _, hne, _ | .other _, hne, _ =>
    absurd rfl hne

theorem isSome_signature?_element : ∀ {t : TypeRef}, t.signature?.isSome →
    t.element.signature?.isSome
  | .list e, h => isSome_signature?_element (t := e) (Resolver.isSome_signature?_of_list h)
  | .nonNull (.list e), h =>
    isSome_signature?_element (t := e)
      (Resolver.isSome_signature?_of_list (Resolver.isSome_signature?_of_nonNull h))
  | .nonNull (.named _), h | .nonNull (.nonNull _), h | .nonNull (.misnamed _), h
  | .nonNull (.tableNamed _), h | .nonNull (.other _), h
  | .named _, h | .misnamed _, h | .tableNamed _, h | .other _, h => h

/-- Only the heart and the wrapper right around it can break off the text of a reference. -/
theorem signatureFault?_of_wraps : ∀ {t : TypeRef}, t ≠ t.heart →
    t.signatureFault? = t.heart.signatureFault?.or t.heart.textFault?
  | .list e, _ => signatureFault?_or_textFault? e
  | .nonNull t, _ => signatureFault?_or_textFault? t
  | .named _, hne | .misnamed _, hne | .tableNamed _, hne | .other _, hne => absurd rfl hne
where
  signatureFault?_or_textFault? (e : TypeRef) :
      e.signatureFault?.or e.textFault? = e.heart.signatureFault?.or e.heart.textFault? := by
    by_cases he : e = e.heart
    · rw [← he]
    · have hnone : e.textFault? = none := by
        cases e <;> first | rfl | exact absurd rfl he
      rw [hnone, Option.or_none, signatureFault?_of_wraps he]

theorem signatureFault?_eq_of_heart (h : t.heart.textFault? = none) :
    t.signatureFault? = t.heart.signatureFault? := by
  by_cases ht : t = t.heart
  · rw [← ht]
  · rw [signatureFault?_of_wraps ht, h, Option.or_none]

/-- Only what is no reference at all can fail to be shown. -/
theorem shownFault?_eq_none (h : ∀ stray, t.heart ≠ .other stray) : t.shownFault? = none := by
  cases t with
  | other stray => exact absurd rfl (h stray)
  | _ => rfl

theorem nameFault?_eq_none_iff {inside : TypeRef} :
    inside.nameFault? = none ↔ inside = .other (.value .null) := by
  unfold nameFault?
  split <;> simp_all

theorem tableText_eq_empty_iff {members : List (String × Json)} :
    tableText members = "" ↔ members = [] := by
  cases members <;> simp [tableText, Json.literal]

end TypeRef

namespace Resolver

variable {r : Resolver} {elementOnly : Bool} {leaf? : Option String} {provenance : String}
  {t : TypeRef}

/-- Going through a reference from the outside, from lists to what they hold, one meets a mark right
behind a mark before any level that is in the table of overrides. -/
inductive MeetsDoubleMark (r : Resolver) (leaf? : Option String) : TypeRef → Prop where
  | here {t : TypeRef} : r.override? leaf? (.nonNull (.nonNull t)) = none →
      MeetsDoubleMark r leaf? (.nonNull (.nonNull t))
  | list {e : TypeRef} : r.override? leaf? (.list e) = none → MeetsDoubleMark r leaf? e →
      MeetsDoubleMark r leaf? (.list e)
  | nonNullList {e : TypeRef} : r.override? leaf? (.nonNull (.list e)) = none →
      MeetsDoubleMark r leaf? e → MeetsDoubleMark r leaf? (.nonNull (.list e))

/-- A level that is in the table ends the search. -/
theorem MeetsDoubleMark.override?_eq_none (h : r.MeetsDoubleMark leaf? t) :
    r.override? leaf? t = none := by
  cases h <;> assumption

theorem meetsDoubleMark_list_iff {e : TypeRef} (h : r.override? leaf? (.list e) = none) :
    r.MeetsDoubleMark leaf? (.list e) ↔ r.MeetsDoubleMark leaf? e := by
  refine ⟨fun hmeets => ?_, .list h⟩
  cases hmeets
  assumption

theorem meetsDoubleMark_nonNull_list_iff {e : TypeRef}
    (h : r.override? leaf? (.nonNull (.list e)) = none) :
    r.MeetsDoubleMark leaf? (.nonNull (.list e)) ↔ r.MeetsDoubleMark leaf? e := by
  refine ⟨fun hmeets => ?_, .nonNullList h⟩
  cases hmeets
  assumption

theorem orOptional_eq_error_iff {override? : Option String} {bare : Except Fault String}
    {fault : Fault} :
    r.orOptional override? bare = .error fault ↔ override? = none ∧ bare = .error fault := by
  cases override? with
  | some spelled => simp [orOptional]
  | none => cases bare <;> simp [orOptional, Except.map]

theorem leafFor_ne_requiredTwice : leafFor leaf? ≠ .error .requiredTwice := by
  cases leaf? <;> simp [leafFor]

/-- Spelling stops at a mark right behind a mark exactly if it meets one. -/
theorem spell_eq_requiredTwice_iff :
    ∀ {t : TypeRef}, r.spell leaf? t = .error .requiredTwice ↔ r.MeetsDoubleMark leaf? t
  | .list e => by
    rw [spell, orOptional_eq_error_iff, map_eq_error, spell_eq_requiredTwice_iff (t := e)]
    by_cases hoverride : r.override? leaf? (.list e) = none
    · rw [meetsDoubleMark_list_iff hoverride, and_iff_right hoverride]
    · exact ⟨fun h => absurd h.1 hoverride, fun h => absurd h.override?_eq_none hoverride⟩
  | .nonNull t => by
    cases hoverride : r.override? leaf? (.nonNull t) with
    | some spelled =>
      rw [spell, hoverride]
      constructor
      · intro h
        cases h
      · intro h
        cases hoverride.symm.trans h.override?_eq_none
    | none =>
      rw [spell, hoverride]
      cases t with
      | list e =>
        rw [spellBare, map_eq_error, spell_eq_requiredTwice_iff (t := e),
          meetsDoubleMark_nonNull_list_iff hoverride]
      | nonNull t => exact iff_of_true rfl (.here hoverride)
      | named name? => cases name? <;> constructor <;> intro h <;> cases h
      | tableNamed _ => exact iff_of_false leafFor_ne_requiredTwice (by intro h; cases h)
      | misnamed _ | other _ => constructor <;> intro h <;> cases h
  | .named name? => by
    refine iff_of_false (fun h => ?_) (by intro h; cases h)
    cases name? with
    | none => cases h
    | some name =>
      rw [spell, orOptional_eq_error_iff] at h
      cases h.2
  | .tableNamed _ => by
    rw [spell, map_eq_error]
    exact iff_of_false leafFor_ne_requiredTwice (by intro h; cases h)
  | .misnamed _ | .other _ => by constructor <;> intro h <;> cases h

/-- Spelling fails at a mark right behind a mark or else at the heart. -/
theorem eq_requiredTwice_or_of_spell {fault : Fault} : ∀ {t : TypeRef},
    r.spell leaf? t = .error fault →
      fault = .requiredTwice ∨ r.spellBare leaf? t.heart = .error fault
  | .list e, h => by
    rw [spell, orOptional_eq_error_iff, map_eq_error] at h
    exact eq_requiredTwice_or_of_spell (t := e) h.2
  | .nonNull t, h => by
    rw [spell] at h
    split at h
    · cases h
    · cases t with
      | list e =>
        rw [spellBare, map_eq_error] at h
        exact eq_requiredTwice_or_of_spell (t := e) h
      | nonNull t => exact .inl (by cases h; rfl)
      | named _ | tableNamed _ | misnamed _ | other _ => exact .inr h
  | .named none, h | .misnamed _, h | .other _, h => .inr h
  | .named (some name), h => by
    rw [spell, orOptional_eq_error_iff] at h
    cases h.2
  | .tableNamed _, h => by
    rw [spell, map_eq_error] at h
    exact .inr h

/-- Around a heart that has a text spelling fails only where a table is looked up. -/
theorem eq_unhashable_of_spellBare {fault : Fault} (hsome : t.signature?.isSome)
    (h : r.spellBare leaf? t.heart = .error fault) : fault = .broken .unhashable := by
  have hheart : t.heart.signature? ≠ none :=
    fun hnone => by simp [TypeRef.signature?_eq_none hnone] at hsome
  obtain ⟨name?, heq⟩ | ⟨inside, heq⟩ | ⟨members, heq⟩ | ⟨stray, heq⟩ := t.exists_heart
  · rw [heq] at h hheart
    obtain ⟨name, rfl⟩ := Option.ne_none_iff_exists'.mp hheart
    cases h
  · exact absurd (by rw [heq]; rfl) hheart
  · rw [heq, spellBare] at h
    cases leaf? <;> simp_all [leafFor]
  · exact absurd (by rw [heq]; rfl) hheart

theorem heart_part (elementOnly : Bool) (t : TypeRef) : (part elementOnly t).heart = t.heart := by
  cases elementOnly <;> simp [part]

/-- What becomes of a reference that has a text is what spelling comes to. -/
def Outcome.ofSpelling (provenance : String) : Except Fault String → Outcome
  | .ok type => .spelled type
  | .error (.broken fault) => .broken fault
  | .error fault => .unresolved ⟨provenance, fault.detail⟩

theorem outcome_of_signatureFault? {fault : TypeRef.Fault} (h : t.signatureFault? = some fault) :
    r.outcome elementOnly leaf? provenance t = .broken fault := by
  rw [outcome, brokenBy?, h]

/-- A reference without a text is shown. -/
theorem outcome_of_signature?_eq_none (hfault : t.signatureFault? = none)
    (hnone : t.signature? = none) (r : Resolver) (elementOnly : Bool) (leaf? : Option String)
    (provenance : String) :
    r.outcome elementOnly leaf? provenance t = match t.shownFault? with
      | some fault => .broken fault
      | none => .unresolved ⟨provenance, (Fault.notAReference t.shown).detail⟩ := by
  rw [outcome, brokenBy?, hfault, hnone]
  cases t.shownFault? with
  | some fault => rfl
  | none => cases elementOnly <;> simp [resolvePart, resolve, resolveElement, hnone]

/-- A reference with a text is spelled. -/
theorem outcome_of_signature? (hfault : t.signatureFault? = none) (hsome : t.signature?.isSome)
    (r : Resolver) (elementOnly : Bool) (leaf? : Option String) (provenance : String) :
    r.outcome elementOnly leaf? provenance t =
      .ofSpelling provenance (r.spell leaf? (part elementOnly t)) := by
  have hpart : r.resolvePart elementOnly leaf? provenance t =
      (r.spell leaf? (part elementOnly t)).mapError fun fault => ⟨provenance, fault.detail⟩ := by
    cases elementOnly with
    | false => exact resolve_of_signature? hsome
    | true =>
      have hwhole : ¬ t.signature?.isNone := by
        simpa using Option.isSome_iff_ne_none.mp hsome
      simp only [resolvePart, resolveElement, if_neg hwhole, if_true]
      exact resolve_of_signature? (TypeRef.isSome_signature?_element hsome)
  rw [outcome, brokenBy?, hfault, hpart]
  dsimp only
  rw [if_neg (by simpa using Option.isSome_iff_ne_none.mp hsome)]
  cases r.spell leaf? (part elementOnly t) with
  | ok spelled => rfl
  | error fault => cases fault <;> rfl

/-- No name is at the heart of a reference, or a mark right behind a mark is met in the part of it
that is spelled. -/
def Malformed (r : Resolver) (elementOnly : Bool) (leaf? : Option String) (t : TypeRef) : Prop :=
  t.name? = none ∨ r.MeetsDoubleMark leaf? (part elementOnly t)

/-- A reference is answered: it is unresolved, with the provenance it came with, exactly if it is
malformed, and else it is a type. Nothing breaks off, the escape of a name included. -/
structure Answers (r : Resolver) (elementOnly : Bool) (leaf? : Option String) (provenance : String)
    (t : TypeRef) : Prop where
  escapes : (r.nameEscaped? (part elementOnly t)).bind r.escapeFault? = none
  unbroken : ∀ fault, r.outcome elementOnly leaf? provenance t ≠ .broken fault
  unresolved_iff : (∃ detail, r.outcome elementOnly leaf? provenance t =
    .unresolved ⟨provenance, detail⟩) ↔ r.Malformed elementOnly leaf? t
  spelled_iff : (∃ type, r.outcome elementOnly leaf? provenance t = .spelled type) ↔
    ¬ r.Malformed elementOnly leaf? t

/-- What is at the heart of a reference can be read as far as it is needed: what stands for a name
is one or nothing, what is shown has no integer of too many digits, and a table that stands for a
name is not looked up. -/
structure Readable (r : Resolver) (elementOnly : Bool) (leaf? : Option String) (t : TypeRef) :
    Prop where
  name : ∀ inside, t.heart = .misnamed inside → inside = .other (.value .null)
  value : ∀ v, t = .other (.value v) → v.hasLongInteger = false
  table : ∀ members, t.heart = .tableNamed members →
    members = [] ∧ t ≠ .tableNamed members ∨
      (Json.object members).hasLongInteger = false ∧ r.MeetsDoubleMark leaf? (part elementOnly t)

/-- Why a reference is unresolved: it has no text, or else a mark stands behind a mark. -/
def whyUnresolved (t : TypeRef) : Fault :=
  if t.signature? = none then .notAReference t.shown else .requiredTwice

theorem escapes_builtIn (htarget : Response.IsBuiltIn r.target) (t : TypeRef) :
    (r.nameEscaped? t).bind r.escapeFault? = none := by
  cases r.nameEscaped? t with
  | none => rfl
  | some name => exact Generator.escapeFault?_builtIn htarget name

theorem answers_of_unresolved {detail : String} (htarget : Response.IsBuiltIn r.target)
    (h : r.outcome elementOnly leaf? provenance t = .unresolved ⟨provenance, detail⟩)
    (hmalformed : r.Malformed elementOnly leaf? t) : r.Answers elementOnly leaf? provenance t where
  escapes := escapes_builtIn htarget _
  unbroken := by simp [h]
  unresolved_iff := iff_of_true ⟨detail, h⟩ hmalformed
  spelled_iff := iff_of_false (by simp [h]) (not_not_intro hmalformed)

theorem answers_of_spelled {type : String} (htarget : Response.IsBuiltIn r.target)
    (h : r.outcome elementOnly leaf? provenance t = .spelled type) :
    r.Answers elementOnly leaf? provenance t ↔ ¬ r.Malformed elementOnly leaf? t where
  mp hanswers := hanswers.spelled_iff.mp ⟨type, h⟩
  mpr hnot :=
    { escapes := escapes_builtIn htarget _
      unbroken := by simp [h]
      unresolved_iff := iff_of_false (by simp [h]) hnot
      spelled_iff := iff_of_true ⟨type, h⟩ hnot }

theorem not_answers_of_broken {fault : TypeRef.Fault}
    (h : r.outcome elementOnly leaf? provenance t = .broken fault) :
    ¬ r.Answers elementOnly leaf? provenance t :=
  fun hanswers => hanswers.unbroken fault h

/-- A reference without a text is answered if it can be shown. -/
theorem answers_iff_shownFault? (htarget : Response.IsBuiltIn r.target)
    (hfault : t.signatureFault? = none) (hnone : t.signature? = none)
    (hheart : t.heart.name? = none) :
    r.Answers elementOnly leaf? provenance t ↔ t.shownFault? = none := by
  have houtcome := outcome_of_signature?_eq_none hfault hnone r elementOnly leaf? provenance
  cases hshown : t.shownFault? with
  | some fault =>
    rw [hshown] at houtcome
    exact iff_of_false (not_answers_of_broken houtcome) nofun
  | none =>
    rw [hshown] at houtcome
    have hname : t.name? = none := t.name?_heart ▸ hheart
    exact iff_of_true (answers_of_unresolved htarget houtcome (.inl hname)) rfl

theorem answers_of_named {name? : Option String} (htarget : Response.IsBuiltIn r.target)
    (hheart : t.heart = .named name?) (hname : name? ≠ some "") :
    r.Answers elementOnly leaf? provenance t := by
  have hfault : t.signatureFault? = none := by
    rw [TypeRef.signatureFault?_eq_of_heart (by rw [hheart]; rfl), hheart]
    rfl
  have hheart? : t.name? = name? := by
    rw [← t.name?_heart, hheart]
    rfl
  cases name? with
  | none =>
    have hnone : t.signature? = none := TypeRef.signature?_eq_none (by rw [hheart]; rfl)
    exact (answers_iff_shownFault? htarget hfault hnone (by rw [hheart]; rfl)).mpr
      (TypeRef.shownFault?_eq_none (by simp [hheart]))
  | some name =>
    have hne : name ≠ "" := fun heq => hname (by rw [heq])
    obtain ⟨key, hkey, -⟩ := TypeRef.exists_signature? (t := t) hne (by rw [hheart]; rfl)
    have houtcome :=
      outcome_of_signature? hfault (by simp [hkey]) r elementOnly leaf? provenance
    cases hspell : r.spell leaf? (part elementOnly t) with
    | ok spelled =>
      rw [hspell] at houtcome
      refine (answers_of_spelled htarget houtcome).mpr (not_or.mpr ⟨by simp [hheart?], ?_⟩)
      rw [← spell_eq_requiredTwice_iff, hspell]
      nofun
    | error fault =>
      obtain rfl : fault = .requiredTwice := by
        refine (eq_requiredTwice_or_of_spell hspell).resolve_right fun h => ?_
        rw [heart_part, hheart] at h
        cases h
      rw [hspell] at houtcome
      exact answers_of_unresolved htarget houtcome (.inr (spell_eq_requiredTwice_iff.mp hspell))

theorem answers_iff_of_misnamed {inside : TypeRef} (htarget : Response.IsBuiltIn r.target)
    (hheart : t.heart = .misnamed inside) :
    r.Answers elementOnly leaf? provenance t ↔ inside = .other (.value .null) := by
  have hfault : t.signatureFault? = inside.nameFault? := by
    rw [TypeRef.signatureFault?_eq_of_heart (by rw [hheart]; rfl), hheart]
    rfl
  cases hinside : inside.nameFault? with
  | some fault =>
    refine iff_of_false (not_answers_of_broken (outcome_of_signatureFault? (hfault.trans hinside)))
      fun heq => ?_
    cases hinside.symm.trans (TypeRef.nameFault?_eq_none_iff.mpr heq)
  | none =>
    refine iff_of_true ?_ (TypeRef.nameFault?_eq_none_iff.mp hinside)
    have hnone : t.signature? = none := TypeRef.signature?_eq_none (by rw [hheart]; rfl)
    exact (answers_iff_shownFault? htarget (hfault.trans hinside) hnone (by rw [hheart]; rfl)).mpr
      (TypeRef.shownFault?_eq_none (by simp [hheart]))

theorem answers_iff_of_other {stray : Stray} (htarget : Response.IsBuiltIn r.target)
    (hheart : t.heart = .other stray) :
    r.Answers elementOnly leaf? provenance t ↔
      ∀ v, t = .other (.value v) → v.hasLongInteger = false := by
  have hfault : t.signatureFault? = none := by
    rw [TypeRef.signatureFault?_eq_of_heart (by rw [hheart]; rfl), hheart]
    rfl
  have hnone : t.signature? = none := TypeRef.signature?_eq_none (by rw [hheart]; rfl)
  rw [answers_iff_shownFault? htarget hfault hnone (by rw [hheart]; rfl)]
  cases t with
  | other stray => cases stray <;> simp [TypeRef.shownFault?]
  | _ => exact iff_of_true rfl nofun

/-- A table that stands for a name is spelled around a given leaf, and else looked up. -/
theorem answers_iff_meetsDoubleMark {members : List (String × Json)}
    (htarget : Response.IsBuiltIn r.target) (hheart : t.heart = .tableNamed members)
    (hfault : t.signatureFault? = none) (hsome : t.signature?.isSome) :
    r.Answers elementOnly leaf? provenance t ↔ r.MeetsDoubleMark leaf? (part elementOnly t) := by
  have houtcome := outcome_of_signature? hfault hsome r elementOnly leaf? provenance
  have hname : t.name? = none := by
    rw [← t.name?_heart, hheart]
    rfl
  rw [← spell_eq_requiredTwice_iff]
  cases hspell : r.spell leaf? (part elementOnly t) with
  | ok spelled =>
    rw [hspell] at houtcome
    rw [answers_of_spelled htarget houtcome]
    exact iff_of_false (not_not_intro (.inl hname)) nofun
  | error fault =>
    rcases eq_requiredTwice_or_of_spell hspell with rfl | h
    · rw [hspell] at houtcome
      exact iff_of_true (answers_of_unresolved htarget houtcome (.inl hname)) rfl
    · rw [heart_part] at h
      obtain rfl := eq_unhashable_of_spellBare hsome h
      rw [hspell] at houtcome
      exact iff_of_false (not_answers_of_broken houtcome) nofun

theorem answers_iff_of_tableNamed {members : List (String × Json)}
    (htarget : Response.IsBuiltIn r.target) (hheart : t.heart = .tableNamed members) :
    r.Answers elementOnly leaf? provenance t ↔ members = [] ∧ t ≠ .tableNamed members ∨
      (Json.object members).hasLongInteger = false ∧
        r.MeetsDoubleMark leaf? (part elementOnly t) := by
  by_cases ht : t = .tableNamed members
  · subst ht
    have hpart : part elementOnly (.tableNamed members) = .tableNamed members := by
      cases elementOnly <;> rfl
    rw [answers_iff_meetsDoubleMark htarget rfl rfl rfl, hpart]
    refine iff_of_false nofun ?_
    rintro (⟨-, h⟩ | ⟨-, h⟩)
    · exact h rfl
    · cases h
  · have hwraps : t ≠ t.heart := by rwa [hheart]
    have hfault : t.signatureFault? = if (Json.object members).hasLongInteger then
        some .longInteger else none := by
      rw [TypeRef.signatureFault?_of_wraps hwraps, hheart]
      rfl
    cases hlong : (Json.object members).hasLongInteger with
    | true =>
      rw [hlong] at hfault
      refine iff_of_false (not_answers_of_broken (outcome_of_signatureFault? hfault)) ?_
      rintro (⟨rfl, -⟩ | ⟨h, -⟩)
      · cases hlong
      · cases h
    | false =>
      rw [hlong] at hfault
      by_cases hempty : members = []
      · subst hempty
        have hnone := TypeRef.signature?_of_wraps_empty hwraps (by rw [hheart]; rfl)
        have hshown : t.shownFault? = none := TypeRef.shownFault?_eq_none (by simp [hheart])
        exact iff_of_true ((answers_iff_shownFault? htarget hfault hnone
          (by rw [hheart]; rfl)).mpr hshown) (.inl ⟨rfl, ht⟩)
      · obtain ⟨key, hkey, -⟩ := TypeRef.exists_signature? (t := t)
          (mt TypeRef.tableText_eq_empty_iff.mp hempty) (by rw [hheart]; rfl)
        rw [answers_iff_meetsDoubleMark htarget hheart hfault (by simp [hkey])]
        simp [hempty]

theorem detail_of_unresolved {u : Unresolved}
    (h : r.outcome elementOnly leaf? provenance t = .unresolved u) :
    u = ⟨provenance, (whyUnresolved t).detail⟩ := by
  cases hfault : t.signatureFault? with
  | some fault =>
    rw [outcome_of_signatureFault? hfault] at h
    cases h
  | none =>
    cases hsignature : t.signature? with
    | none =>
      rw [outcome_of_signature?_eq_none hfault hsignature] at h
      rw [whyUnresolved, if_pos hsignature]
      split at h
      · cases h
      · exact (Outcome.unresolved.inj h).symm
    | some key =>
      rw [outcome_of_signature? hfault (by simp [hsignature])] at h
      rw [whyUnresolved, if_neg (by simp [hsignature])]
      cases hspell : r.spell leaf? (part elementOnly t) with
      | ok spelled =>
        rw [hspell] at h
        cases h
      | error fault =>
        rw [hspell] at h
        rcases eq_requiredTwice_or_of_spell hspell with rfl | hheart
        · exact (Outcome.unresolved.inj h).symm
        · rw [heart_part] at hheart
          rw [eq_unhashable_of_spellBare (by simp [hsignature]) hheart] at h
          cases h

/-- With a built-in target every readable reference is answered, whatever else it holds, and no
other one is. A reference that is unresolved comes with the provenance that was given and tells why.
-/
theorem answers_iff_readable (htarget : Response.IsBuiltIn r.target) (hname : t.name? ≠ some "")
    (elementOnly : Bool) (leaf? : Option String) (provenance : String) :
    (r.Answers elementOnly leaf? provenance t ↔ r.Readable elementOnly leaf? t) ∧
      ∀ u, r.outcome elementOnly leaf? provenance t = .unresolved u →
        u = ⟨provenance, (whyUnresolved t).detail⟩ := by
  refine ⟨?_, fun u => detail_of_unresolved⟩
  have hheart? := t.name?_heart
  obtain ⟨name?, h⟩ | ⟨inside, h⟩ | ⟨members, h⟩ | ⟨stray, h⟩ := t.exists_heart
  · have hnonempty : name? ≠ some "" := by
      rw [h] at hheart?
      exact fun heq => hname (hheart?.symm.trans heq)
    refine iff_of_true (answers_of_named htarget h hnonempty) ⟨by simp [h], ?_, by simp [h]⟩
    rintro v rfl
    cases h
  · rw [answers_iff_of_misnamed htarget h]
    refine ⟨fun heq => ⟨?_, ?_, by simp [h]⟩, fun hr => hr.name inside h⟩
    · rintro inside' hinside'
      cases h.symm.trans hinside'
      exact heq
    · rintro v rfl
      cases h
  · rw [answers_iff_of_tableNamed htarget h]
    refine ⟨fun ht => ⟨by simp [h], ?_, ?_⟩, fun hr => hr.table members h⟩
    · rintro v rfl
      cases h
    · rintro members' hmembers'
      cases h.symm.trans hmembers'
      exact ht
  · rw [answers_iff_of_other htarget h]
    exact ⟨fun hv => ⟨by simp [h], hv, by simp [h]⟩, Readable.value⟩

/-- An entry for a list of what no text can spell. -/
def doubleMarks : Resolver := ⟨.csharp, [("[Int!!]", "IntList")], [], none⟩

/-- The list is what the entry says, and its element, which the entry says nothing about, is
unresolved. -/
theorem answers_doubleMarks :
    (∃ type, doubleMarks.outcome false none "field"
      (.list (.nonNull (.nonNull (.named (some "Int"))))) = .spelled type) ∧
    doubleMarks.outcome true none "field" (.list (.nonNull (.nonNull (.named (some "Int"))))) =
      .unresolved ⟨"field", "unexpected type node NonNullTypeNode"⟩ := by
  have hname : (TypeRef.list (.nonNull (.nonNull (.named (some "Int"))))).name? ≠ some "" := by
    decide
  have hbuiltIn : Response.IsBuiltIn doubleMarks.target := .inl rfl
  have hreadable : ∀ elementOnly, doubleMarks.Readable elementOnly none
      (.list (.nonNull (.nonNull (.named (some "Int"))))) :=
    fun _ => ⟨nofun, nofun, nofun⟩
  have hwhole := (answers_iff_readable hbuiltIn hname false none "field").1.mpr (hreadable false)
  obtain ⟨helement, hdetail⟩ := answers_iff_readable hbuiltIn hname true none "field"
  refine ⟨hwhole.spelled_iff.mpr (not_or.mpr ⟨by decide, fun hmeets => ?_⟩), ?_⟩
  · exact absurd hmeets.override?_eq_none (by decide +kernel)
  · obtain ⟨detail, hunresolved⟩ := (helement.mpr (hreadable true)).unresolved_iff.mpr
      (.inr (.here (by decide +kernel)))
    rw [hunresolved, hdetail _ hunresolved]
    rfl

/-- Neither a value that has no name nor a table is answered in the place of a name. -/
theorem not_answers_misnamed :
    Response.IsBuiltIn doubleMarks.target ∧
    (TypeRef.misnamed (.other (.value (.string "Int")))).name? ≠ some "" ∧
    ¬ doubleMarks.Answers false none "type" (.misnamed (.other (.value (.string "Int")))) ∧
    (TypeRef.tableNamed [("value", .string "Int")]).name? ≠ some "" ∧
    ¬ doubleMarks.Answers false none "type" (.tableNamed [("value", .string "Int")]) := by
  have hnoName : doubleMarks.outcome false none "type"
      (.misnamed (.other (.value (.string "Int")))) = .broken (.noName "str") := rfl
  have hunhashable : doubleMarks.outcome false none "type"
      (.tableNamed [("value", .string "Int")]) = .broken .unhashable := rfl
  exact ⟨.inl rfl, nofun, not_answers_of_broken hnoName, nofun, not_answers_of_broken hunhashable⟩

end Resolver

end OperationClasses
