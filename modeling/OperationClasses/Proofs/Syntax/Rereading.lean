import Mathlib.Data.List.Forall2
import OperationClasses.Proofs.Result
import OperationClasses.Syntax.Parse

/-!
# Reading the same tokens again

A step that succeeds takes some tokens and looks at no more than the one behind them. So it does
the same wherever those tokens stand again; only the offsets that it writes down may differ.
Repeating steps are told how many tokens are left, which may be another number the second time,
but is always enough.
-/
namespace OperationClasses.Syntax.Parse

variable {α β γ : Type}

theorem bind_eq_ok_iff {p : Parse α} {f : α → Parse β} {ts rest : List Token} {y : β} :
    (p >>= f) ts = .ok (y, rest) ↔ ∃ x mid, p ts = .ok (x, mid) ∧ f x mid = .ok (y, rest) := by
  change (p ts >>= fun r => f r.1 r.2) = .ok (y, rest) ↔ _
  rw [OperationClasses.bind_eq_ok]
  constructor
  · rintro ⟨⟨x, mid⟩, hp, hf⟩
    exact ⟨x, mid, hp, hf⟩
  · rintro ⟨x, mid, hp, hf⟩
    exact ⟨(x, mid), hp, hf⟩

theorem pure_eq_ok_iff {x y : α} {ts rest : List Token} :
    (pure x : Parse α) ts = .ok (y, rest) ↔ x = y ∧ ts = rest := by
  change Except.ok (x, ts) = .ok (y, rest) ↔ _
  simp

/-- Whether a step takes any token, and whether it looks at the one behind those it takes. -/
structure Extent where
  eats : Bool
  looks : Bool
  deriving DecidableEq

namespace Extent

/-- Takes nothing and looks at nothing. -/
def idle : Extent := ⟨false, false⟩

/-- Ends with a token of its own. -/
def closed : Extent := ⟨true, false⟩

/-- Looks at the next token and may take none. -/
def peeking : Extent := ⟨false, true⟩

/-- Takes a token and looks at the one behind. -/
def trailing : Extent := ⟨true, true⟩

/-- One step behind another. -/
def andThen (a b : Extent) : Extent := ⟨a.eats || b.eats, b.looks || (a.looks && !b.eats)⟩

/-- Takes as much and looks no further. -/
def Within (a b : Extent) : Prop := (b.eats → a.eats) ∧ (a.looks → b.looks)

instance (a b : Extent) : Decidable (Within a b) := by
  unfold Within
  infer_instance

theorem Within.toNat_le {a b : Extent} (h : a.Within b) : a.looks.toNat ≤ b.looks.toNat := by
  cases ha : a.looks with
  | false => simp
  | true => simp [h.2 ha]

/-- A step behind another one sees at least what it sees on its own. -/
theorem looks_andThen_right (a b : Extent) : b.looks.toNat ≤ (a.andThen b).looks.toNat := by
  cases h : b.looks <;> simp [andThen, h]

/-- What the first step looks at is taken by the second one, or it is seen behind both. -/
theorem looks_andThen_left (a b : Extent) :
    a.looks.toNat ≤ (a.andThen b).looks.toNat + b.eats.toNat := by
  cases ha : a.looks <;> cases hb : b.eats <;> simp [andThen, ha, hb]

/-- A look at a token that is taken is no look behind. -/
theorem peeking_andThen_closed (e : Extent) :
    peeking.andThen (closed.andThen e) = closed.andThen e := by
  simp [andThen, peeking, closed]

end Extent

/-- What the next token says; behind the last one, that the text ends. -/
def nextLexeme (ts : List Token) : Lexeme := (ts.head?.map Token.lexeme).getD .finish

/-- The next token says the same, if there is one. -/
def SameNext (ts ts' : List Token) : Prop := ts'.head?.map Token.lexeme = ts.head?.map Token.lexeme

theorem SameNext.nextLexeme_eq {ts ts' : List Token} (h : SameNext ts ts') :
    nextLexeme ts' = nextLexeme ts := by
  unfold nextLexeme
  rw [h]

theorem SameNext.append {used used' rest rest' : List Token}
    (hused : used'.map Token.lexeme = used.map Token.lexeme)
    (hrest : used = [] → SameNext rest rest') : SameNext (used ++ rest) (used' ++ rest') := by
  cases used with
  | nil =>
    obtain rfl : used' = [] := by simpa using hused
    exact hrest rfl
  | cons t used =>
    obtain ⟨t', used', rfl⟩ : ∃ t' used'', used' = t' :: used'' := by
      cases used' with
      | nil => simp at hused
      | cons t' used' => exact ⟨t', used', rfl⟩
    have hlexeme : t'.lexeme = t.lexeme := by simpa using congrArg List.head? hused
    simp [SameNext, hlexeme]

/-- Wherever the step `p` succeeds on tokens that begin with the lexeme `l`, the step `p'`
succeeds on others that say the same, as far as `e` tells, with a result that looks the same. The
numbers are those that both steps were told about the tokens left. -/
def ReadsAt (n n' : ℕ) (l : Lexeme) (e : Extent) (view : α → γ) (p p' : Parse α) : Prop :=
  ∀ ts x rest, nextLexeme ts = l → p ts = .ok (x, rest) →
    ∃ used, ts = used ++ rest ∧ (e.eats → used ≠ []) ∧
      ∀ used' rest', used'.map Token.lexeme = used.map Token.lexeme →
        (e.looks → SameNext rest rest') → (n ≤ n' ∨ used.length + e.looks.toNat ≤ n') →
        ∃ x', view x' = view x ∧ p' (used' ++ rest') = .ok (x', rest')

/-- The same step again, whatever tokens are next and whatever it was told. -/
def Reads (e : Extent) (view : α → γ) (p : Parse α) : Prop := ∀ n n' l, ReadsAt n n' l e view p p

section

variable {δ : Type} {n n' : ℕ} {l : Lexeme} {e e₁ e₂ : Extent} {view : α → γ} {p p' : Parse α}

theorem toNat_le_length {b : Bool} {used : List Token} (h : b → used ≠ []) :
    b.toNat ≤ used.length := by
  cases b with
  | true => simpa [Nat.one_le_iff_ne_zero] using h
  | false => simp

theorem ReadsAt.weaken (h : ReadsAt n n' l e₁ view p p') (he : e₁.Within e) :
    ReadsAt n n' l e view p p' := by
  intro ts x rest hl hp
  obtain ⟨used, hts, heats, hagain⟩ := h ts x rest hl hp
  refine ⟨used, hts, fun h => heats (he.1 h), fun used' rest' hused hlooks hroom => ?_⟩
  have hle := he.toNat_le
  exact hagain used' rest' hused (fun h => hlooks (he.2 h)) (by omega)

theorem ReadsAt.pure {x x' : α} (h : view x' = view x) :
    ReadsAt n n' l .idle view (pure x) (pure x') := by
  intro ts y rest _ hp
  obtain ⟨rfl, rfl⟩ := pure_eq_ok_iff.mp hp
  refine ⟨[], rfl, by simp [Extent.idle], fun used' rest' hused _ _ => ⟨x', h, ?_⟩⟩
  obtain rfl : used' = [] := by simpa using hused
  rfl

theorem ReadsAt.fail (cause : SyntaxCause) (place : Token) :
    ReadsAt n n' l e view (fail cause place) p' :=
  fun _ _ _ _ hp => by cases hp

theorem ReadsAt.unexpected (t : Token) : ReadsAt n n' l e view (unexpected t) p' :=
  fun _ _ _ _ hp => by cases hp

/-- One step behind another. The second one may be told other numbers, as long as they account
for a token that the first one takes. -/
theorem ReadsAt.bind_told {view' : β → δ} {f f' : α → Parse β}
    (hp : ReadsAt n n' l e₁ view p p') (m m' : ℕ) (e₂ : Extent)
    (hf : ∀ x x', view x' = view x → ∀ l, ReadsAt m m' l e₂ view' (f x) (f' x'))
    (hm : n ≤ n' → m ≤ m') (hm' : n' ≤ m' + e₁.eats.toNat) :
    ReadsAt n n' l (e₁.andThen e₂) view' (p >>= f) (p' >>= f') := by
  intro ts y rest hl h
  obtain ⟨x, mid, hx, hy⟩ := bind_eq_ok_iff.mp h
  obtain ⟨used₁, rfl, heats₁, hagain₁⟩ := hp ts x mid hl hx
  obtain ⟨used₂, rfl, heats₂, -⟩ := hf x x rfl _ mid y rest rfl hy
  refine ⟨used₁ ++ used₂, (List.append_assoc _ _ _).symm, ?_, ?_⟩
  · intro heats hnil
    obtain ⟨rfl, rfl⟩ := List.append_eq_nil_iff.mp hnil
    rcases Bool.or_eq_true_iff.mp heats with h | h
    · exact heats₁ h rfl
    · exact heats₂ h rfl
  · intro used' rest' hused hlooks hroom
    rw [List.map_append, List.map_eq_append_iff] at hused
    obtain ⟨used₁', used₂', rfl, hused₁, hused₂⟩ := hused
    have hlooks₁ : e₁.looks → SameNext (used₂ ++ rest) (used₂' ++ rest') := by
      intro h
      refine SameNext.append hused₂ fun hnil => hlooks ?_
      cases heats : e₂.eats with
      | true => exact absurd hnil (heats₂ heats)
      | false => simp [Extent.andThen, h, heats]
    have hlength₁ := toNat_le_length heats₁
    have hlength₂ := toNat_le_length heats₂
    have hright := e₁.looks_andThen_right e₂
    have hleft := e₁.looks_andThen_left e₂
    rw [List.length_append] at hroom
    obtain ⟨x', hview, hx'⟩ := hagain₁ used₁' (used₂' ++ rest') hused₁ hlooks₁ (by omega)
    obtain ⟨used₃, hsplit, -, hagain₂⟩ := hf x x' hview _ (used₂ ++ rest) y rest rfl hy
    obtain rfl : used₂ = used₃ := List.append_cancel_right hsplit
    have hlooks₂ : e₂.looks → SameNext rest rest' := fun h => hlooks (by simp [Extent.andThen, h])
    obtain ⟨y', hview', hy'⟩ := hagain₂ used₂' rest' hused₂ hlooks₂ (by omega)
    refine ⟨y', hview', ?_⟩
    rw [List.append_assoc]
    exact bind_eq_ok_iff.mpr ⟨x', _, hx', hy'⟩

theorem ReadsAt.bind {view' : β → δ} {f f' : α → Parse β} (hp : ReadsAt n n' l e₁ view p p')
    (e₂ : Extent)
    (hf : ∀ x x', view x' = view x → ∀ l, ReadsAt n n' l e₂ view' (f x) (f' x')) :
    ReadsAt n n' l (e₁.andThen e₂) view' (p >>= f) (p' >>= f') :=
  hp.bind_told n n' e₂ hf id (Nat.le_add_right _ _)

/-- The rule for a first step whose result does not tell where it stood. -/
theorem ReadsAt.bind_same {view' : β → δ} {f f' : α → Parse β}
    (hp : ReadsAt n n' l e₁ id p p') (e₂ : Extent)
    (hf : ∀ x l, ReadsAt n n' l e₂ view' (f x) (f' x)) :
    ReadsAt n n' l (e₁.andThen e₂) view' (p >>= f) (p' >>= f') :=
  hp.bind e₂ fun x x' hx l => by
    obtain rfl : x' = x := hx
    exact hf x' l

theorem ReadsAt.map {view' : β → δ} (hp : ReadsAt n n' l .closed view p p') (g : α → β)
    (hg : ∀ x x', view x' = view x → view' (g x') = view' (g x)) :
    ReadsAt n n' l .closed view' (g <$> p) (g <$> p') := by
  rw [map_eq_pure_bind, map_eq_pure_bind]
  exact hp.bind .idle fun x x' hx _ => .pure (hg x x' hx)

end

theorem sound_of_unbroken {t : Token} (h : ∀ f, t.lexeme ≠ .broken f) : sound t = pure t := by
  unfold sound
  split
  · rename_i f hf
    exact absurd hf (h f)
  · rfl

theorem sound_of_broken {t : Token} {f : LexicalFault} (h : t.lexeme = .broken f) :
    sound t = fail (.lexical f) t := by
  unfold sound
  rw [h]

theorem current_eq_ok {ts rest : List Token} {t : Token} (h : current ts = .ok (t, rest)) :
    rest = ts ∧ t.lexeme = nextLexeme ts ∧ ∀ f, nextLexeme ts ≠ .broken f := by
  cases ts with
  | nil =>
    cases h
    exact ⟨rfl, rfl, by simp [nextLexeme]⟩
  | cons a ts =>
    change sound a (a :: ts) = .ok (t, rest) at h
    have hunbroken : ∀ f, a.lexeme ≠ .broken f := by
      intro f hf
      rw [sound_of_broken hf] at h
      cases h
    rw [sound_of_unbroken hunbroken] at h
    obtain ⟨rfl, rfl⟩ := pure_eq_ok_iff.mp h
    exact ⟨rfl, rfl, hunbroken⟩

theorem exists_current {ts : List Token} (h : ∀ f, nextLexeme ts ≠ .broken f) :
    ∃ t, current ts = .ok (t, ts) ∧ t.lexeme = nextLexeme ts := by
  cases ts with
  | nil => exact ⟨_, rfl, rfl⟩
  | cons a ts =>
    refine ⟨a, ?_, rfl⟩
    change sound a (a :: ts) = _
    rw [sound_of_unbroken h]
    rfl

section

variable {n n' : ℕ} {l : Lexeme} {e : Extent} {view : β → γ}

/-- A step that begins by looking at the next token. -/
theorem ReadsAt.current_bind (e : Extent) {k k' : Token → Parse β}
    (h : ∀ t t', t.lexeme = l → t'.lexeme = l → ReadsAt n n' l e view (k t) (k' t')) :
    ReadsAt n n' l (.andThen .peeking e) view (current >>= k) (current >>= k') := by
  intro ts y rest hl hk
  obtain ⟨t, mid, ht, hy⟩ := bind_eq_ok_iff.mp hk
  obtain ⟨rfl, htl, hunbroken⟩ := current_eq_ok ht
  obtain ⟨used, rfl, heats, -⟩ := h t t (htl.trans hl) (htl.trans hl) mid y rest hl hy
  refine ⟨used, rfl, heats, fun used' rest' hused hlooks hroom => ?_⟩
  have hsame : SameNext (used ++ rest) (used' ++ rest') := by
    refine SameNext.append hused fun hnil => hlooks ?_
    cases heats' : e.eats with
    | true => exact absurd hnil (heats heats')
    | false => simp [Extent.andThen, Extent.peeking, heats']
  have hnext := hsame.nextLexeme_eq
  obtain ⟨t', ht', htl'⟩ := exists_current (hnext ▸ hunbroken)
  obtain ⟨used₁, hsplit, -, hagain⟩ :=
    h t t' (htl.trans hl) (htl'.trans (hnext.trans hl)) _ y rest hl hy
  obtain rfl : used = used₁ := List.append_cancel_right hsplit
  have hright := Extent.peeking.looks_andThen_right e
  obtain ⟨y', hview, hy'⟩ := hagain used' rest' hused
    (fun h => hlooks (by simp [Extent.andThen, h])) (by omega)
  exact ⟨y', hview, bind_eq_ok_iff.mpr ⟨t', _, ht', hy'⟩⟩

theorem readsAt_advance (h : l ≠ .finish) : ReadsAt n n' l .closed id advance advance := by
  intro ts x rest hl hp
  cases ts with
  | nil => exact absurd hl.symm h
  | cons t ts =>
    cases hp
    refine ⟨[t], rfl, by simp, fun used' rest' hused _ _ => ⟨(), rfl, ?_⟩⟩
    obtain ⟨t', rfl⟩ : ∃ t', used' = [t'] := by
      rw [← List.length_eq_one_iff, ← List.length_map, hused]
      rfl
    rfl

/-- A step that is told how many tokens are left. -/
theorem ReadsAt.bound_bind {q q' : ℕ → Parse β} (h : ∀ n n', ReadsAt n n' l e view (q n) (q' n')) :
    ReadsAt n n' l e view (bound >>= q) (bound >>= q') := by
  intro ts y rest hl hq
  obtain ⟨used, hts, heats, -⟩ := h ts.length ts.length ts y rest hl hq
  refine ⟨used, hts, heats, fun used' rest' hused hlooks _ => ?_⟩
  obtain ⟨used₁, hsplit, -, hagain⟩ := h ts.length (used' ++ rest').length ts y rest hl hq
  obtain rfl : used = used₁ := List.append_cancel_right (hts.symm.trans hsplit)
  have hlength : used'.length = used.length := by simpa using congrArg List.length hused
  have hroom : ts.length ≤ (used' ++ rest').length ∨
      used.length + e.looks.toNat ≤ (used' ++ rest').length := by
    rw [hts, List.length_append, List.length_append, hlength]
    cases he : e.looks with
    | false => exact .inr (by simp)
    | true =>
      have hsame := hlooks he
      cases rest with
      | nil => exact .inl (by simp)
      | cons t rest =>
        cases rest' with
        | nil => simp [SameNext] at hsame
        | cons t' rest' => exact .inr (by simp)
  obtain ⟨y', hview, hy'⟩ := hagain used' rest' hused hlooks hroom
  exact ⟨y', hview, hy'⟩

/-- A step that asks something of the next token. -/
def look (c : Lexeme → Bool) : Parse Bool := do return c (← current).lexeme

/-- A step that takes the next token if it is as asked for. -/
def takeIf (c : Lexeme → Bool) : Parse Bool := do
  if ← look c then advance; return true else return false

theorem ReadsAt.look_bind {c : Lexeme → Bool} (e₁ e₂ : Extent) {k k' : Bool → Parse β}
    (hyes : c l = true → ReadsAt n n' l e₁ view (k true) (k' true))
    (hno : c l = false → ReadsAt n n' l e₂ view (k false) (k' false))
    (h₁ : (Extent.peeking.andThen e₁).Within e) (h₂ : (Extent.peeking.andThen e₂).Within e) :
    ReadsAt n n' l e view (look c >>= k) (look c >>= k') := by
  have hlook : ∀ k : Bool → Parse β, look c >>= k = current >>= fun t => k (c t.lexeme) := by
    intro k
    simp [look]
  rw [hlook, hlook]
  cases hc : c l with
  | true =>
    refine (ReadsAt.current_bind e₁ fun t t' ht ht' => ?_).weaken h₁
    rw [ht, ht', hc]
    exact hyes hc
  | false =>
    refine (ReadsAt.current_bind e₂ fun t t' ht ht' => ?_).weaken h₂
    rw [ht, ht', hc]
    exact hno hc

theorem ReadsAt.takeIf_bind {c : Lexeme → Bool} (hfinish : c .finish = false) (e₁ e₂ : Extent)
    {k k' : Bool → Parse β} (hyes : ∀ l, ReadsAt n n' l e₁ view (k true) (k' true))
    (hno : c l = false → ReadsAt n n' l e₂ view (k false) (k' false))
    (h₁ : (Extent.closed.andThen e₁).Within e) (h₂ : (Extent.peeking.andThen e₂).Within e) :
    ReadsAt n n' l e view (takeIf c >>= k) (takeIf c >>= k') := by
  have htake : ∀ k : Bool → Parse β, takeIf c >>= k = look c >>= fun b =>
      if b = true then advance >>= fun _ => k true else k false := by
    intro k
    simp only [takeIf, bind_assoc]
    congr 1
    funext b
    cases b <;> simp
  rw [htake, htake]
  refine ReadsAt.look_bind (.andThen .closed e₁) e₂ (fun hc => ?_) hno ?_ h₂
  · exact (readsAt_advance (by rintro rfl; simp [hfinish] at hc)).bind_same e₁ fun _ => hyes
  · rw [Extent.peeking_andThen_closed]
    exact h₁

end

theorem isNext_eq_look (m : Mark) : isNext m = look (· == .mark m) := rfl

theorem skipMark_eq_takeIf (m : Mark) : skipMark m = takeIf (· == .mark m) := rfl

theorem skipKeyword_eq_takeIf (word : String) : skipKeyword word = takeIf (· == .name word) := by
  simp [skipKeyword, takeIf, look]

/-- Whether a token is a name. -/
def isName : Lexeme → Bool
  | .name _ => true
  | _ => false

theorem hasName_eq_look : hasName = look isName := by
  unfold hasName look
  congr 1
  funext t
  unfold isName
  split <;> simp_all

end OperationClasses.Syntax.Parse
