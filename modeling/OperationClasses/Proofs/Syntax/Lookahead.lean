import Mathlib.Data.Nat.Notation
import OperationClasses.Proofs.Result
import OperationClasses.Syntax.Lexer

/-!
# Lookahead of the lexer

A step of the lexer looks at the characters it takes and at the one behind them, and at no
others. So a text that agrees that far begins with the same token or separator.
-/
namespace OperationClasses.Syntax

open Text

/-- Two texts begin with the same characters, up to a number of them. -/
def Agree (n : ℕ) (s s' : List Char) : Prop := s'.take n = s.take n

theorem Agree.mono {n m : ℕ} {s s' : List Char} (h : Agree n s s') (hle : m ≤ n) :
    Agree m s s' := by
  unfold Agree at h ⊢
  rw [← Nat.min_eq_left hle, ← List.take_take, ← List.take_take, h]

theorem Agree.symm {n : ℕ} {s s' : List Char} (h : Agree n s s') : Agree n s' s := Eq.symm h

theorem Agree.drop {n k : ℕ} {s s' : List Char} (h : Agree (k + n) s s') :
    Agree n (s.drop k) (s'.drop k) := by
  unfold Agree at h ⊢
  rw [List.take_drop, List.take_drop, h]

theorem agree_cons_iff {n : ℕ} {c : Char} {s s' : List Char} :
    Agree (n + 1) (c :: s) s' ↔ ∃ rest, s' = c :: rest ∧ Agree n s rest := by
  cases s' with
  | nil => simp [Agree]
  | cons d rest =>
    constructor
    · intro h
      obtain ⟨rfl, hrest⟩ := List.cons.inj h
      exact ⟨rest, rfl, hrest⟩
    · rintro ⟨rest', h, hrest⟩
      obtain ⟨rfl, rfl⟩ := List.cons.inj h
      exact congrArg (d :: ·) hrest

theorem agree_nil_iff {n : ℕ} {s' : List Char} : Agree (n + 1) [] s' ↔ s' = [] := by
  cases s' <;> simp [Agree]

theorem takeWhile_congr {p : Char → Bool} {s s' : List Char}
    (h : Agree ((s.takeWhile p).length + 1) s s') : s'.takeWhile p = s.takeWhile p := by
  induction s generalizing s' with
  | nil =>
    rw [agree_nil_iff.mp h]
  | cons c s ih =>
    by_cases hc : p c
    · rw [List.takeWhile_cons_of_pos hc, List.length_cons] at h
      obtain ⟨rest, rfl, hrest⟩ := agree_cons_iff.mp h
      rw [List.takeWhile_cons_of_pos hc, List.takeWhile_cons_of_pos hc, ih hrest]
    · obtain ⟨rest, rfl, -⟩ := agree_cons_iff.mp h
      rw [List.takeWhile_cons_of_neg hc, List.takeWhile_cons_of_neg hc]

/-- A run of elements goes on behind a text only if what follows begins with one of them. -/
theorem takeWhile_append_of_head? {α : Type} {p : α → Bool} {as bs : List α}
    (h : ∀ b, bs.head? = some b → p b = false) : (as ++ bs).takeWhile p = as.takeWhile p := by
  induction as with
  | nil =>
    cases bs with
    | nil => rfl
    | cons b bs => simp [h b rfl]
  | cons a as ih => simp only [List.cons_append, List.takeWhile_cons, ih]

theorem dropWhile_append_of_head? {α : Type} {p : α → Bool} {as bs : List α}
    (h : ∀ b, bs.head? = some b → p b = false) :
    (as ++ bs).dropWhile p = as.dropWhile p ++ bs := by
  induction as with
  | nil =>
    cases bs with
    | nil => rfl
    | cons b bs => simp [h b rfl]
  | cons a as ih =>
    simp only [List.cons_append, List.dropWhile_cons, ih]
    split <;> rfl

/-- A length is told by the characters it counts and the one behind them. -/
def LooksAhead (f : List Char → Except FaultAt ℕ) : Prop :=
  ∀ s s' n, f s = .ok n → Agree (n + 1) s s' → f s' = .ok n

theorem looksAhead_digitRun : LooksAhead digitRun := by
  intro s s' n hs h
  cases s with
  | nil => simp [digitRun] at hs
  | cons c s =>
    obtain ⟨rest, rfl, hrest⟩ := agree_cons_iff.mp h
    simp only [digitRun] at hs ⊢
    by_cases hc : isDigit c
    · simp only [hc, ↓reduceIte, Except.ok.injEq] at hs ⊢
      rw [takeWhile_congr (hs ▸ hrest), hs]
    · simp [hc] at hs

theorem LooksAhead.shift {f : List Char → Except FaultAt ℕ} (hf : LooksAhead f) {k n : ℕ}
    {s s' : List Char} (hs : shiftFault k (f (s.drop k)) = .ok n) (h : Agree (n + 1) s s') :
    shiftFault k (f (s'.drop k)) = .ok n ∧ k ≤ n := by
  cases hfs : f (s.drop k) with
  | error fault => simp [hfs, shiftFault] at hs
  | ok m =>
    simp only [hfs, shiftFault, Except.ok.injEq] at hs
    subst hs
    rw [hf _ _ m hfs (Agree.drop h)]
    exact ⟨rfl, by omega⟩

theorem wholeLength_of_ne {c : Char} (h : c ≠ '0') (s : List Char) :
    wholeLength (c :: s) = digitRun (c :: s) := by
  unfold wholeLength
  split <;> simp_all

theorem fractionLength_of_ne {c : Char} (h : c ≠ '.') (s : List Char) :
    fractionLength (c :: s) = .ok 0 := by
  unfold fractionLength
  split <;> simp_all

theorem looksAhead_wholeLength : LooksAhead wholeLength := by
  intro s s' n hs h
  cases s with
  | nil => cases hs
  | cons c s =>
    obtain ⟨rest, rfl, hrest⟩ := agree_cons_iff.mp h
    by_cases hc : c = '0'
    · subst hc
      cases s with
      | nil =>
        cases hs
        rw [agree_nil_iff.mp hrest]
        rfl
      | cons d s =>
        by_cases hd : isDigit d
        · simp [wholeLength, hd] at hs
        · obtain rfl : n = 1 := by simpa [wholeLength, hd] using hs.symm
          obtain ⟨rest', rfl, -⟩ := agree_cons_iff.mp hrest
          simp [wholeLength, hd]
    · rw [wholeLength_of_ne hc] at hs ⊢
      exact looksAhead_digitRun _ _ n hs h

theorem looksAhead_fractionLength : LooksAhead fractionLength := by
  intro s s' n hs h
  cases s with
  | nil =>
    rw [agree_nil_iff.mp h]
    exact hs
  | cons c s =>
    by_cases hc : c = '.'
    · subst hc
      have hshift := (looksAhead_digitRun.shift (k := 1) (s := '.' :: s) hs h).1
      obtain ⟨rest, rfl, -⟩ := agree_cons_iff.mp h
      exact hshift
    · obtain ⟨rest, rfl, -⟩ := agree_cons_iff.mp h
      rw [fractionLength_of_ne hc] at hs ⊢
      exact hs

theorem looksAhead_exponentLength : LooksAhead exponentLength := by
  intro s s' n hs h
  cases s with
  | nil =>
    rw [agree_nil_iff.mp h]
    exact hs
  | cons e s =>
    obtain ⟨rest, rfl, hrest⟩ := agree_cons_iff.mp h
    by_cases he : e = 'e' || e = 'E'
    · cases s with
      | nil => simp [exponentLength, he, digitRun, shiftFault] at hs
      | cons sign s =>
        by_cases hsign : sign = '+' || sign = '-'
        · have hs' : shiftFault 2 (digitRun ((e :: sign :: s).drop 2)) = .ok n := by
            simpa [exponentLength, he, hsign] using hs
          obtain ⟨hshift, hle⟩ := looksAhead_digitRun.shift hs' h
          obtain ⟨rest', rfl, -⟩ := agree_cons_iff.mp (hrest.mono (m := 1) (by omega))
          simpa [exponentLength, he, hsign] using hshift
        · have hs' : shiftFault 1 (digitRun ((e :: sign :: s).drop 1)) = .ok n := by
            simpa [exponentLength, he, hsign] using hs
          obtain ⟨hshift, hle⟩ := looksAhead_digitRun.shift hs' h
          obtain ⟨rest', rfl, -⟩ := agree_cons_iff.mp (hrest.mono (m := 1) (by omega))
          simpa [exponentLength, he, hsign] using hshift
    · simp only [exponentLength, he, Bool.false_eq_true, ↓reduceIte] at hs ⊢
      exact hs

/-- What is asked of the character behind a number. -/
theorem number_end_congr {s s' : List Char} {whole all n : ℕ} {isFloat : Bool}
    (hs : (match s.drop all with
      | c :: _ =>
        if c = '.' || isNameStart c then .error (.digitExpected (some c), all)
        else .ok (all, whole != all)
      | [] => .ok (all, whole != all) : Except FaultAt (ℕ × Bool)) = .ok (n, isFloat))
    (h : Agree (n + 1) s s') :
    all = n ∧ (match s'.drop all with
      | c :: _ =>
        if c = '.' || isNameStart c then .error (.digitExpected (some c), all)
        else .ok (all, whole != all)
      | [] => .ok (all, whole != all) : Except FaultAt (ℕ × Bool)) = .ok (n, isFloat) := by
  cases hdrop : s.drop all with
  | nil =>
    simp only [hdrop, Except.ok.injEq, Prod.mk.injEq] at hs
    obtain ⟨rfl, rfl⟩ := hs
    have hdrop' := Agree.drop h
    rw [hdrop, agree_nil_iff] at hdrop'
    simp [hdrop']
  | cons c rest =>
    by_cases hc : (c = '.' || isNameStart c) = true
    · simp [hdrop, hc] at hs
    · simp only [hdrop, hc, Bool.false_eq_true, ↓reduceIte, Except.ok.injEq, Prod.mk.injEq] at hs
      obtain ⟨rfl, rfl⟩ := hs
      have hdrop' := Agree.drop h
      rw [hdrop] at hdrop'
      obtain ⟨rest', hrest', -⟩ := agree_cons_iff.mp hdrop'
      simp [hrest', hc]

/-- The length of a sign; zero when there is none. -/
def signLength (s : List Char) : ℕ :=
  match s with
  | '-' :: _ => 1
  | _ => 0

theorem signLength_of_ne {c : Char} (h : c ≠ '-') (s : List Char) : signLength (c :: s) = 0 := by
  unfold signLength
  split <;> simp_all

theorem signLength_congr {s s' : List Char} {n : ℕ} (h : Agree (n + 1) s s') :
    signLength s' = signLength s := by
  cases s with
  | nil => rw [agree_nil_iff.mp h]
  | cons c rest =>
    obtain ⟨rest', rfl, -⟩ := agree_cons_iff.mp h
    by_cases hc : c = '-'
    · subst hc
      rfl
    · rw [signLength_of_ne hc, signLength_of_ne hc]

theorem numberLength_congr {s s' : List Char} {n : ℕ} {isFloat : Bool}
    (hs : numberLength s = .ok (n, isFloat)) (h : Agree (n + 1) s s') :
    numberLength s' = .ok (n, isFloat) := by
  have hsign := signLength_congr h
  simp only [numberLength, bind_eq_ok] at hs ⊢
  obtain ⟨whole, hwhole, fraction, hfraction, all, hall, hend⟩ := hs
  obtain ⟨rfl, hend'⟩ := number_end_congr hend h
  obtain ⟨hall', hle⟩ := looksAhead_exponentLength.shift hall h
  obtain ⟨hfraction', hle'⟩ := looksAhead_fractionLength.shift hfraction (h.mono (by omega))
  obtain ⟨hwhole', -⟩ := looksAhead_wholeLength.shift hwhole (h.mono (by omega))
  refine ⟨whole, ?_, fraction, hfraction', all, hall', hend'⟩
  change shiftFault (signLength s') (wholeLength (s'.drop (signLength s'))) = .ok whole
  rw [hsign]
  exact hwhole'

theorem fourHex?_congr {s s' : List Char} {n : ℕ} (hs : fourHex? s = some n) (h : Agree 4 s s') :
    fourHex? s' = some n := by
  match s, hs with
  | a :: b :: c :: d :: rest, hs =>
    obtain ⟨s₁, rfl, h₁⟩ := agree_cons_iff.mp h
    obtain ⟨s₂, rfl, h₂⟩ := agree_cons_iff.mp h₁
    obtain ⟨s₃, rfl, h₃⟩ := agree_cons_iff.mp h₂
    obtain ⟨s₄, rfl, -⟩ := agree_cons_iff.mp h₃
    exact hs

theorem bracedEscape_congr {written : List Char} (written' : List Char) {s s' : List Char}
    {size point n : ℕ} {c : Char}
    (hs : bracedEscape written size point s = .ok (c, n)) (h : Agree (n - size) s s') :
    size < n ∧ bracedEscape written' size point s' = .ok (c, n) := by
  induction s generalizing size point s' with
  | nil => simp [bracedEscape] at hs
  | cons d rest ih =>
    by_cases hsize : size ≥ 12
    · simp [bracedEscape, hsize] at hs
    · by_cases hd : d = '\x7d'
      · by_cases hshort : size + 1 < 5
        · simp [bracedEscape, hsize, hd, hshort] at hs
        · cases hchar : charOf? point with
          | none => simp [bracedEscape, hsize, hd, hshort, hchar] at hs
          | some ch =>
            simp only [bracedEscape, hsize, hd, hshort, hchar, ↓reduceIte, Except.ok.injEq,
              Prod.mk.injEq] at hs
            obtain ⟨rfl, rfl⟩ := hs
            rw [show size + 1 - size = 0 + 1 by omega] at h
            obtain ⟨rest', rfl, -⟩ := agree_cons_iff.mp h
            simp [bracedEscape, hsize, hd, hshort, hchar]
      · cases hhex : hexValue? d with
        | none => simp [bracedEscape, hsize, hd, hhex] at hs
        | some v =>
          simp only [bracedEscape, hsize, hd, hhex, ↓reduceIte] at hs
          have hlt := (ih hs (rfl : Agree _ rest rest)).1
          rw [show n - size = n - (size + 1) + 1 by omega] at h
          obtain ⟨rest', rfl, hrest⟩ := agree_cons_iff.mp h
          simp only [bracedEscape, hsize, hd, hhex, ↓reduceIte]
          exact ⟨by omega, (ih hs hrest).2⟩

theorem fixedEscape_congr {s s' : List Char} {n : ℕ} {c : Char}
    (hs : fixedEscape s = .ok (c, n)) (h : Agree n s s') : 6 ≤ n ∧ fixedEscape s' = .ok (c, n) := by
  unfold fixedEscape at hs ⊢
  cases hhigh : fourHex? (s.drop 2) with
  | none => simp [hhigh] at hs
  | some high =>
    cases hchar : charOf? high with
    | some ch =>
      simp only [hhigh, hchar, Except.ok.injEq, Prod.mk.injEq] at hs
      obtain ⟨rfl, rfl⟩ := hs
      have hhigh' := fourHex?_congr hhigh (Agree.drop (h.mono (m := 2 + 4) (by omega)))
      simp [hhigh', hchar]
    | none =>
      simp only [hhigh, hchar] at hs
      by_cases hpair : (high ≤ 0xdbff && (s.drop 6).take 2 = ['\\', 'u']) = true
      · cases hlow : fourHex? (s.drop 8) with
        | none => simp [hpair, hlow] at hs
        | some low =>
          by_cases hrange : (0xdc00 ≤ low && low ≤ 0xdfff) = true
          · simp only [hpair, hlow, hrange, ↓reduceIte, Except.ok.injEq, Prod.mk.injEq] at hs
            obtain ⟨rfl, rfl⟩ := hs
            have hhigh' := fourHex?_congr hhigh (Agree.drop (h.mono (m := 2 + 4) (by omega)))
            have hlow' := fourHex?_congr hlow (Agree.drop (h.mono (m := 8 + 4) (by omega)))
            have hmark : (s'.drop 6).take 2 = (s.drop 6).take 2 :=
              Agree.drop (h.mono (m := 6 + 2) (by omega))
            simp [hhigh', hchar, hmark, hpair, hlow', hrange]
          · simp [hpair, hlow, hrange] at hs
      · simp [hpair] at hs

theorem readEscape_plain {b e : Char} (h : e ≠ 'u') (rest : List Char) :
    readEscape (b :: e :: rest) = match escapedChar? e with
      | some c => .ok (c, 2)
      | none => .error (.badEscape (String.ofList [b, e]), 0) := by
  unfold readEscape
  split
  · simp_all
  · simp_all
  · rename_i heq
    simp only [List.cons.injEq] at heq
    obtain ⟨rfl, rfl, rfl⟩ := heq
    rfl
  · simp_all

theorem readEscape_fixed {b : Char} {rest : List Char} (h : ∀ tail, rest ≠ '\x7b' :: tail) :
    readEscape (b :: 'u' :: rest) = fixedEscape (b :: 'u' :: rest) := by
  unfold readEscape
  split
  · simp_all
  · rfl
  · rename_i hne heq
    exact absurd (List.cons.inj (List.cons.inj heq).2).1.symm hne
  · simp_all

theorem readEscape_congr {s s' : List Char} {n : ℕ} {c : Char}
    (hs : readEscape s = .ok (c, n)) (h : Agree n s s') : 2 ≤ n ∧ readEscape s' = .ok (c, n) := by
  match s, hs with
  | [], hs => cases hs
  | [_], hs => cases hs
  | b :: e :: rest, hs =>
    by_cases he : e = 'u'
    · subst he
      by_cases hbrace : ∃ tail, rest = '\x7b' :: tail
      · obtain ⟨tail, rfl⟩ := hbrace
        have hlt := (bracedEscape_congr s' hs rfl).1
        rw [show n = n - 3 + 1 + 1 + 1 by omega] at h
        obtain ⟨s₁, rfl, h₁⟩ := agree_cons_iff.mp h
        obtain ⟨s₂, rfl, h₂⟩ := agree_cons_iff.mp h₁
        obtain ⟨s₃, rfl, h₃⟩ := agree_cons_iff.mp h₂
        exact ⟨by omega, (bracedEscape_congr _ hs h₃).2⟩
      · rw [readEscape_fixed (not_exists.mp hbrace)] at hs
        obtain ⟨hle, hs'⟩ := fixedEscape_congr hs h
        rw [show n = n - 3 + 1 + 1 + 1 by omega] at h
        obtain ⟨s₁, rfl, h₁⟩ := agree_cons_iff.mp h
        obtain ⟨s₂, rfl, h₂⟩ := agree_cons_iff.mp h₁
        have hbrace' : ∀ tail, s₂ ≠ '\x7b' :: tail := by
          rintro tail rfl
          cases rest with
          | nil => simp [Agree] at h₂
          | cons d rest =>
            obtain ⟨_, heq, -⟩ := agree_cons_iff.mp h₂
            obtain ⟨rfl, -⟩ := List.cons.inj heq
            exact hbrace ⟨rest, rfl⟩
        rw [readEscape_fixed hbrace']
        exact ⟨by omega, hs'⟩
    · rw [readEscape_plain he] at hs
      cases hc : escapedChar? e with
      | none => simp [hc] at hs
      | some ch =>
        simp only [hc, Except.ok.injEq, Prod.mk.injEq] at hs
        obtain ⟨rfl, rfl⟩ := hs
        obtain ⟨s₁, rfl, h₁⟩ := agree_cons_iff.mp h
        obtain ⟨s₂, rfl, -⟩ := agree_cons_iff.mp h₁
        simp [readEscape_plain he, hc]

/-- How a string goes on: with its end, an escape or a plain character. -/
theorem stringBody_cons_iff {taken n : ℕ} {c : Char} {rest value : List Char} :
    stringBody taken (c :: rest) = .ok (value, n) ↔
      (c = '"' ∧ value = [] ∧ n = taken + 1) ∨
      (c = '\\' ∧ ∃ ch k tail, readEscape (c :: rest) = .ok (ch, k) ∧
        stringBody (taken + (k - 1 + 1)) (rest.drop (k - 1)) = .ok (tail, n) ∧ value = ch :: tail) ∨
      (c ≠ '"' ∧ isLineEnd c = false ∧ c ≠ '\\' ∧ ∃ tail,
        stringBody (taken + 1) rest = .ok (tail, n) ∧ value = c :: tail) := by
  rw [stringBody]
  by_cases hquote : c = '"'
  · subst hquote
    simp only [↓reduceIte, Except.ok.injEq, Prod.mk.injEq, true_and, ne_eq, not_true_eq_false,
      false_and, or_false, Char.reduceEq, eq_comm (a := ([] : List Char)), eq_comm (b := n)]
  · by_cases hslash : c = '\\'
    · subst hslash
      have hend : isLineEnd '\\' = false := rfl
      cases hescape : readEscape ('\\' :: rest) with
      | error fault => simp [hend]
      | ok p =>
        obtain ⟨ch, k⟩ := p
        cases htail : stringBody (taken + (k - 1 + 1)) (rest.drop (k - 1)) with
        | error fault => simp [hend, htail]
        | ok q => simp [hend, htail, Prod.ext_iff]; grind
    · cases hend : isLineEnd c with
      | true => simp [hquote, hslash]
      | false =>
        cases htail : stringBody (taken + 1) rest with
        | error fault => simp [hquote, hslash]
        | ok q => simp [hquote, hslash, Prod.ext_iff]; grind

theorem stringBody_congr {taken n : ℕ} {s s' value : List Char}
    (hs : stringBody taken s = .ok (value, n)) (h : Agree (n - taken) s s') :
    taken < n ∧ stringBody taken s' = .ok (value, n) := by
  induction hlen : s.length using Nat.strongRecOn generalizing taken s s' value with
  | ind len ih =>
    cases s with
    | nil => simp [stringBody] at hs
    | cons c rest =>
      rw [List.length_cons] at hlen
      suffices hfirst : taken < n ∧ ∀ rest', Agree (n - taken - 1) rest rest' →
          stringBody taken (c :: rest') = .ok (value, n) by
        rw [show n - taken = n - taken - 1 + 1 by omega] at h
        obtain ⟨rest', rfl, hrest⟩ := agree_cons_iff.mp h
        exact ⟨hfirst.1, hfirst.2 rest' hrest⟩
      rcases stringBody_cons_iff.mp hs with ⟨hc, hvalue, rfl⟩ | ⟨hc, ch, k, tail, hescape, htail,
        hvalue⟩ | ⟨hquote, hend, hslash, tail, htail, hvalue⟩
      · exact ⟨by omega, fun rest' _ => stringBody_cons_iff.mpr (.inl ⟨hc, hvalue, rfl⟩)⟩
      · have hk := (readEscape_congr hescape rfl).1
        have hshort : (rest.drop (k - 1)).length < len := by
          rw [List.length_drop]
          omega
        have hlt := (ih _ hshort htail rfl rfl).1
        refine ⟨by omega, fun rest' hrest => stringBody_cons_iff.mpr (.inr (.inl ?_))⟩
        have hescape' : readEscape (c :: rest') = .ok (ch, k) := by
          refine (readEscape_congr hescape ?_).2
          rw [show k = k - 1 + 1 by omega]
          exact agree_cons_iff.mpr ⟨rest', rfl, hrest.mono (by omega)⟩
        have hagree : Agree (n - (taken + (k - 1 + 1))) (rest.drop (k - 1)) (rest'.drop (k - 1)) :=
          Agree.drop (hrest.mono (by omega))
        exact ⟨hc, ch, k, tail, hescape', (ih _ hshort htail hagree rfl).2, hvalue⟩
      · have hlt := (ih _ (by omega) htail rfl rfl).1
        refine ⟨by omega, fun rest' hrest => stringBody_cons_iff.mpr (.inr (.inr ?_))⟩
        have hagree : Agree (n - (taken + 1)) rest rest' := hrest.mono (by omega)
        exact ⟨hquote, hend, hslash, tail, (ih _ (by omega) htail hagree rfl).2, hvalue⟩

theorem Agree.exists_of_append {n : ℕ} (front : List Char) {tail s : List Char}
    (h : Agree n (front ++ tail) s) (hle : front.length ≤ n) :
    ∃ rest, s = front ++ rest ∧ Agree (n - front.length) tail rest := by
  induction front generalizing n s with
  | nil => exact ⟨s, rfl, h⟩
  | cons c front ih =>
    rw [List.length_cons] at hle
    rw [List.cons_append, show n = n - 1 + 1 by omega] at h
    obtain ⟨rest, rfl, hrest⟩ := agree_cons_iff.mp h
    obtain ⟨rest', rfl, hrest'⟩ := ih hrest (by omega)
    exact ⟨rest', rfl, hrest'.mono (by rw [List.length_cons]; omega)⟩

/-- Nothing but a plain character or the end of a line stands at the beginning. -/
structure PlainLine (c : Char) (rest : List Char) : Prop where
  close : ∀ tail, c = '"' → rest = '"' :: '"' :: tail → False
  escape : ∀ tail, c = '\\' → rest = '"' :: '"' :: '"' :: tail → False
  lineEnd : ∀ tail, c = '\r' → rest = '\n' :: tail → False

theorem PlainLine.congr {c : Char} {n : ℕ} {rest rest' : List Char} (hplain : PlainLine c rest)
    (h : Agree n rest rest') (hle : 3 ≤ n) : PlainLine c rest' where
  close tail hc htail := by
    subst htail
    obtain ⟨tail', htail', -⟩ := h.symm.exists_of_append ['"', '"'] (by simp; omega)
    exact hplain.close tail' hc htail'
  escape tail hc htail := by
    subst htail
    obtain ⟨tail', htail', -⟩ := h.symm.exists_of_append ['"', '"', '"'] (by simpa)
    exact hplain.escape tail' hc htail'
  lineEnd tail hc htail := by
    subst htail
    obtain ⟨tail', htail', -⟩ := h.symm.exists_of_append ['\n'] (by simp; omega)
    exact hplain.lineEnd tail' hc htail'

theorem PlainLine.blockLines {c : Char} {rest : List Char} (h : PlainLine c rest) :
    blockLines (c :: rest) = if isLineEnd c
      then (Syntax.blockLines rest).map fun p => ([] :: p.1, p.2 + 1)
      else (Syntax.blockLines rest).map fun p => (consFirst c p.1, p.2 + 1) := by
  rw [Syntax.blockLines]
  · exact h.close
  · exact h.escape
  · exact h.lineEnd

/-- A block string is told by the characters it takes, which are at least its closing quotes. -/
theorem blockLines_congr {s s' : List Char} {ls : List (List Char)} {n : ℕ}
    (hs : blockLines s = some (ls, n)) (h : Agree n s s') :
    3 ≤ n ∧ blockLines s' = some (ls, n) := by
  fun_induction blockLines s generalizing ls n s' with
  | case1 tail =>
    obtain ⟨rfl, rfl⟩ := Prod.mk.inj (Option.some.inj hs)
    obtain ⟨rest', rfl, -⟩ := h.exists_of_append ['"', '"', '"'] (by simp)
    exact ⟨Nat.le_refl 3, rfl⟩
  | case2 rest ih =>
    obtain ⟨⟨inner, m⟩, hinner, heq⟩ := Option.map_eq_some_iff.mp hs
    obtain ⟨rfl, rfl⟩ := Prod.mk.inj heq
    obtain ⟨rest', rfl, hrest⟩ := h.exists_of_append ['\\', '"', '"', '"'] (by simp)
    have hrest' := (ih hinner hrest).2
    exact ⟨by omega, by simp [blockLines, hrest']⟩
  | case3 rest ih =>
    obtain ⟨⟨inner, m⟩, hinner, heq⟩ := Option.map_eq_some_iff.mp hs
    obtain ⟨rfl, rfl⟩ := Prod.mk.inj heq
    obtain ⟨rest', rfl, hrest⟩ := h.exists_of_append ['\r', '\n'] (by simp)
    obtain ⟨hle, hrest'⟩ := ih hinner hrest
    exact ⟨by omega, by simp [blockLines, hrest']⟩
  | case4 c rest hclose hescape hreturn hend ih =>
    obtain ⟨⟨inner, m⟩, hinner, heq⟩ := Option.map_eq_some_iff.mp hs
    obtain ⟨rfl, rfl⟩ := Prod.mk.inj heq
    obtain ⟨rest', rfl, hrest⟩ := agree_cons_iff.mp h
    obtain ⟨hle, hrest'⟩ := ih hinner hrest
    have hplain : PlainLine c rest := ⟨hclose, hescape, hreturn⟩
    exact ⟨by omega, by simp [(hplain.congr hrest hle).blockLines, hend, hrest']⟩
  | case5 c rest hclose hescape hreturn hend ih =>
    obtain ⟨⟨inner, m⟩, hinner, heq⟩ := Option.map_eq_some_iff.mp hs
    obtain ⟨rfl, rfl⟩ := Prod.mk.inj heq
    obtain ⟨rest', rfl, hrest⟩ := agree_cons_iff.mp h
    obtain ⟨hle, hrest'⟩ := ih hinner hrest
    have hplain : PlainLine c rest := ⟨hclose, hescape, hreturn⟩
    exact ⟨by omega, by simp [(hplain.congr hrest hle).blockLines, hend, hrest']⟩
  | case6 => simp at hs

theorem scanNumber_congr {s s' : List Char} {l : Lexeme} {more : ℕ}
    (hs : scanNumber s = .token l more) (h : Agree (more + 2) s s') :
    scanNumber s' = .token l more := by
  unfold scanNumber at hs ⊢
  cases hn : numberLength s with
  | error fault => simp [hn] at hs
  | ok p =>
    obtain ⟨n, isFloat⟩ := p
    simp only [hn, Scan.token.injEq] at hs
    obtain ⟨rfl, rfl⟩ := hs
    have htaken : s'.take n = s.take n := h.mono (by omega)
    rw [numberLength_congr hn (h.mono (by omega))]
    simp [htaken]

theorem scanString_of_body {rest : List Char} (h : ∀ tail, rest ≠ '"' :: '"' :: tail) :
    scanString rest = match stringBody 1 rest with
      | .ok (value, n) => .token (.string (String.ofList value)) (n - 1)
      | .error (f, n) => .fault f n := by
  unfold scanString
  split
  · exact absurd rfl (h _)
  · rfl

theorem scanString_congr {s s' : List Char} {l : Lexeme} {more : ℕ}
    (hs : scanString s = .token l more) (h : Agree (more + 1) s s') :
    scanString s' = .token l more := by
  by_cases hblock : ∃ body, s = '"' :: '"' :: body
  · obtain ⟨body, rfl⟩ := hblock
    simp only [scanString] at hs
    cases hlines : blockLines body with
    | none => simp [hlines] at hs
    | some p =>
      obtain ⟨ls, n⟩ := p
      simp only [hlines, Scan.token.injEq] at hs
      obtain ⟨rfl, rfl⟩ := hs
      obtain ⟨body', rfl, hbody⟩ := h.exists_of_append ['"', '"'] (by simp)
      have hlines' := (blockLines_congr hlines (hbody.mono (by simp))).2
      simp [scanString, hlines']
  · rw [scanString_of_body (not_exists.mp hblock)] at hs
    cases hstring : stringBody 1 s with
    | error fault => simp [hstring] at hs
    | ok p =>
      obtain ⟨value, n⟩ := p
      simp only [hstring, Scan.token.injEq] at hs
      obtain ⟨rfl, rfl⟩ := hs
      obtain ⟨hlt, hstring'⟩ := stringBody_congr hstring (h.mono (by omega))
      have hbody : ∀ tail, s' ≠ '"' :: '"' :: tail := by
        rintro tail rfl
        have hle : ['"', '"'].length ≤ n - 1 + 1 := by simp; omega
        obtain ⟨body, hbody, -⟩ := h.symm.exists_of_append ['"', '"'] hle
        exact hblock ⟨body, hbody⟩
      rw [scanString_of_body hbody, hstring']

/-- What stands at the beginning of a text is told by its characters and the one behind. -/
theorem scan_congr {c : Char} {rest rest' : List Char} {more : ℕ} {r : Scan}
    (hs : scan c rest = r) (hr : r = .skip more ∨ ∃ l, r = .token l more)
    (h : Agree (more + 1) rest rest') : scan c rest' = r := by
  unfold scan at hs ⊢
  by_cases hseparator : isSeparator c
  · rw [if_pos hseparator] at hs ⊢
    exact hs
  rw [if_neg hseparator] at hs ⊢
  by_cases hcomment : c = '#'
  · rw [if_pos hcomment] at hs ⊢
    subst hs
    rcases hr with hr | ⟨l, hr⟩
    · cases hr
      rw [takeWhile_congr h]
    · cases hr
  rw [if_neg hcomment] at hs ⊢
  by_cases hname : isNameStart c
  · rw [if_pos hname] at hs ⊢
    subst hs
    rcases hr with hr | ⟨l, hr⟩
    · cases hr
    · cases hr
      rw [takeWhile_congr h]
  rw [if_neg hname] at hs ⊢
  by_cases hnumber : (isDigit c || c = '-') = true
  · rw [if_pos hnumber] at hs ⊢
    rcases hr with rfl | ⟨l, rfl⟩
    · unfold scanNumber at hs
      split at hs <;> cases hs
    · exact scanNumber_congr hs (agree_cons_iff.mpr ⟨rest', rfl, h⟩)
  rw [if_neg hnumber] at hs ⊢
  by_cases hstring : c = '"'
  · rw [if_pos hstring] at hs ⊢
    rcases hr with rfl | ⟨l, rfl⟩
    · unfold scanString at hs
      split at hs <;> split at hs <;> cases hs
    · exact scanString_congr hs h
  rw [if_neg hstring] at hs ⊢
  by_cases hspread : (c = '.' && rest.take 2 = ['.', '.']) = true
  · rw [if_pos hspread] at hs
    subst hs
    rcases hr with hr | ⟨l, hr⟩
    · cases hr
    · cases hr
      have htwo : rest'.take 2 = rest.take 2 := h.mono (by omega)
      rw [htwo, if_pos hspread]
  · rw [if_neg hspread] at hs
    have hdot : ¬ (c = '.' && rest'.take 2 = ['.', '.']) = true := by
      intro hdot
      obtain rfl : c = '.' := by simpa using (Bool.and_eq_true_iff.mp hdot).1
      subst hs
      rcases hr with hr | ⟨l, hr⟩ <;> cases hr
    rw [if_neg hdot]
    exact hs

end OperationClasses.Syntax
