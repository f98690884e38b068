import Mathlib.Data.List.Infix
import OperationClasses.Text.Case

/-!
# Letter case of ASCII

Characters of ASCII are lowered one by one and stay in ASCII. Of the others only the Kelvin sign
enters it, as the letter `k`; a capital `I` with a dot gives a small `i`, but with a dot behind it.
So how a lowered text ends tells how the text itself ends, up to the case of its ASCII letters.
-/
namespace OperationClasses.Text

/-- What holds of the first characters by number holds of each of them. -/
theorem forall_ascii {P : Char → Prop} (h : ∀ n < 128, P (Char.ofNat n)) {c : Char}
    (hc : c.toNat < 128) : P c := by
  have hchar := h c.toNat hc
  rwa [Char.ofNat_toNat] at hchar

theorem toNat_toLower_lt_iff {c : Char} : c.toLower.toNat < 128 ↔ c.toNat < 128 := by
  constructor
  · intro h
    by_contra hc
    have hsame : c.toLower = c := by
      have hcapital : ¬ (c.val ≥ 'A'.val ∧ c.val ≤ 'Z'.val) := by
        rintro ⟨-, hle⟩
        exact hc (Nat.lt_of_le_of_lt hle (by decide))
      exact dif_neg hcapital
    exact hc (hsame ▸ h)
  · exact forall_ascii (P := fun c => c.toLower.toNat < 128) (by decide)

theorem lowerFrom_eq_map {s : List Char} (h : ∀ c ∈ s, c.toNat < 128) (afterCased : Bool) :
    lowerFrom afterCased s = s.map Char.toLower := by
  induction s generalizing afterCased with
  | nil => rfl
  | cons c rest ih =>
    have hc := h c (by simp)
    rw [lowerFrom, if_neg (by omega), lowerChar, if_pos hc, ih fun d hd => h d (by simp [hd])]
    rfl

/-- A run moves within ASCII, or its letters stay outside, or it is the Kelvin sign. -/
theorem images_of_mem_lowerRuns : ∀ r ∈ lowerRuns, r.last < 128 ∨
    (r.first = r.last ∧ r.first + r.shift = 'k'.toNat) ∨
    (128 ≤ r.first + r.shift ∧
      (r.last + r.shift < 0xd800 ∨ 0xdfff < r.first + r.shift ∧ r.last + r.shift < 0x110000)) := by
  decide +kernel

theorem moveBy_lowerRuns {c : Char} (hc : 128 ≤ c.toNat) :
    128 ≤ (moveBy lowerRuns c).toNat ∨ moveBy lowerRuns c = 'k' := by
  unfold moveBy
  split
  · next r hr =>
    obtain hholds := List.find?_some hr
    simp only [CaseRun.holds, Bool.and_eq_true, decide_eq_true_eq] at hholds
    obtain ⟨⟨hfirst, hlast⟩, -⟩ := hholds
    obtain h | ⟨hone, hk⟩ | ⟨hlow, hvalid⟩ := images_of_mem_lowerRuns r (List.mem_of_find?_eq_some hr)
    · omega
    · right
      have hnumber : ((c.toNat : ℤ) + r.shift).toNat = 'k'.toNat := by omega
      rw [hnumber, Char.ofNat_toNat]
    · left
      have hnumber : Nat.isValidChar ((c.toNat : ℤ) + r.shift).toNat := by
        unfold Nat.isValidChar
        omega
      have hsame : (Char.ofNat ((c.toNat : ℤ) + r.shift).toNat).toNat =
          ((c.toNat : ℤ) + r.shift).toNat := by
        rw [Char.ofNat, dif_pos hnumber]
        rfl
      rw [hsame]
      omega
  · exact .inl hc

/-- The lower form of a first character comes before that of the others. One of ASCII is lowered
alone; what ends that of another one is outside of ASCII, or `k`. -/
theorem lowerFrom_cons (afterCased : Bool) (c : Char) (rest : List Char) :
    ∃ before d after, lowerFrom afterCased (c :: rest) = (before ++ [d]) ++ lowerFrom after rest ∧
      (before = [] ∧ d = c.toLower ∨ 128 ≤ d.toNat ∨ d = 'k') := by
  rw [lowerFrom]
  split
  · refine ⟨[], _, _, rfl, .inr (.inl ?_)⟩
    cases afterCased && !startsCased rest <;> decide
  · unfold lowerChar
    split
    · exact ⟨[], _, _, rfl, .inl ⟨rfl, rfl⟩⟩
    · next hascii =>
      split
      · exact ⟨['i'], Char.ofNat 0x307, _, rfl, .inr (.inl (by decide))⟩
      · exact ⟨[], _, _, rfl, .inr (moveBy_lowerRuns (Nat.le_of_not_lt hascii))⟩

theorem length_le_lowerFrom (s : List Char) (afterCased : Bool) :
    s.length ≤ (lowerFrom afterCased s).length := by
  induction s generalizing afterCased with
  | nil => simp
  | cons c rest ih =>
    obtain ⟨before, d, after, heq, -⟩ := lowerFrom_cons afterCased c rest
    have hrest := ih after
    simp only [heq, List.length_append, List.length_cons, List.length_nil]
    omega

/-- The lower form of an ending ends that of the text, up to what is before it. -/
theorem exists_lowerFrom_append (s w : List Char) (afterCased : Bool) :
    ∃ after, lowerFrom after w <:+ lowerFrom afterCased (s ++ w) := by
  induction s generalizing afterCased with
  | nil => exact ⟨afterCased, List.suffix_refl _⟩
  | cons c rest ih =>
    obtain ⟨before, d, after, heq, -⟩ := lowerFrom_cons afterCased c (rest ++ w)
    obtain ⟨after', hrest⟩ := ih after
    rw [List.cons_append, heq]
    exact ⟨after', hrest.trans (List.suffix_append _ _)⟩

section

variable {s ending : List Char}

/-- What ends a lowered text and is in ASCII comes from as many characters, each lowered alone. -/
theorem exists_suffix_of_suffix_lowerFrom {afterCased : Bool}
    (hending : ∀ d ∈ ending, d.toNat < 128 ∧ d ≠ 'k') (h : ending <:+ lowerFrom afterCased s) :
    ∃ w, w <:+ s ∧ w.map Char.toLower = ending := by
  induction s generalizing ending afterCased with
  | nil => exact ⟨[], List.nil_suffix, (List.suffix_nil.mp h).symm⟩
  | cons c rest ih =>
    obtain ⟨before, d, after, heq, himage⟩ := lowerFrom_cons afterCased c rest
    rw [heq] at h
    obtain hrest | ⟨t, rfl⟩ := List.suffix_or_suffix_of_suffix h (List.suffix_append _ _)
    · obtain ⟨w, hw, hmap⟩ := ih hending hrest
      exact ⟨w, hw.trans (List.suffix_cons c rest), hmap⟩
    · have hall : lowerFrom after rest <:+ lowerFrom after rest := List.suffix_refl _
      obtain ⟨w, hw, hmap⟩ := ih (fun e he => hending e (List.mem_append_right t he)) hall
      obtain rfl : w = rest := by
        refine hw.eq_of_length_le ?_
        rw [← w.length_map Char.toLower, hmap]
        exact length_le_lowerFrom rest after
      obtain rfl | ⟨t, rfl, ht⟩ := List.suffix_concat_iff.mp (List.suffix_append_self_iff.mp h)
      · exact ⟨w, List.suffix_cons c w, hmap⟩
      · obtain ⟨rfl, rfl⟩ | houtside := himage
        · obtain rfl := List.suffix_nil.mp ht
          exact ⟨c :: w, List.suffix_refl _, by simp [hmap]⟩
        · obtain ⟨hascii, hk⟩ := hending d (by simp)
          exact absurd houtside (by simp [hk, hascii])

/-- A lowered text ends like this exactly when the text does, up to the case of ASCII letters. -/
theorem suffix_lower_iff (hending : ∀ d ∈ ending, d.toNat < 128 ∧ d ≠ 'k') :
    ending <:+ lower s ↔ ∃ w, w <:+ s ∧ w.map Char.toLower = ending := by
  constructor
  · exact exists_suffix_of_suffix_lowerFrom hending
  · rintro ⟨w, ⟨t, rfl⟩, rfl⟩
    have hascii : ∀ c ∈ w, c.toNat < 128 := fun c hc =>
      toNat_toLower_lt_iff.mp (hending _ (List.mem_map_of_mem hc)).1
    obtain ⟨after, hsuffix⟩ := exists_lowerFrom_append t w false
    rwa [lowerFrom_eq_map hascii] at hsuffix

end

end OperationClasses.Text
