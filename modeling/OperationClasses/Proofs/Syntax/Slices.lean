import Mathlib.Data.List.Basic
import OperationClasses.Proofs.Syntax.Lookahead

/-!
# Tokens of a slice

A piece of a text that goes from the beginning of a token to the end of a closing brace reads as
the tokens between them, wherever it is put and whatever follows it.
-/
namespace OperationClasses.Syntax

/-- A token that much further into a text. -/
def Token.behind (n : ℕ) (t : Token) : Token := ⟨t.lexeme, t.start + n, t.stop + n⟩

@[simp] theorem Token.behind_lexeme (n : ℕ) (t : Token) : (t.behind n).lexeme = t.lexeme := rfl

@[simp] theorem Token.behind_start (n : ℕ) (t : Token) : (t.behind n).start = t.start + n := rfl

@[simp] theorem Token.behind_stop (n : ℕ) (t : Token) : (t.behind n).stop = t.stop + n := rfl

theorem Token.behind_injective (n : ℕ) : Function.Injective (Token.behind n) := by
  rintro ⟨l, start, stop⟩ ⟨l', start', stop'⟩ h
  simp only [Token.behind, Token.mk.injEq, Nat.add_right_cancel_iff] at h ⊢
  exact h

theorem tokensFrom_of_skip {c : Char} {rest : List Char} {more : ℕ}
    (h : scan c rest = .skip more) (off : ℕ) :
    tokensFrom off (c :: rest) = tokensFrom (off + more + 1) (rest.drop more) := by
  rw [tokensFrom, h]

theorem tokensFrom_of_token {c : Char} {rest : List Char} {l : Lexeme} {more : ℕ}
    (h : scan c rest = .token l more) (off : ℕ) :
    tokensFrom off (c :: rest) =
      ⟨l, off, off + more + 1⟩ :: tokensFrom (off + more + 1) (rest.drop more) := by
  rw [tokensFrom, h]

theorem tokensFrom_mark {c : Char} {rest : List Char} {m : Mark}
    (h : scan c rest = .token (.mark m) 0) (off : ℕ) :
    tokensFrom off (c :: rest) = ⟨.mark m, off, off + 1⟩ :: tokensFrom (off + 1) rest :=
  tokensFrom_of_token h off

/-- Only the places of tokens tell where a text stands. -/
theorem tokensFrom_add (off n : ℕ) (s : List Char) :
    tokensFrom (off + n) s = (tokensFrom off s).map (Token.behind n) := by
  fun_induction tokensFrom off s with
  | case1 off => simp [tokensFrom, Token.behind]
  | case2 off c rest more hscan ih =>
    rw [tokensFrom_of_skip hscan, ← ih, show off + n + more + 1 = off + more + 1 + n by omega]
  | case3 off c rest l more hscan ih =>
    rw [tokensFrom_of_token hscan, List.map_cons, ← ih,
      show off + n + more + 1 = off + more + 1 + n by omega]
    rfl
  | case4 off c rest f k hscan =>
    rw [tokensFrom, hscan]
    simp [Token.behind, show off + n + k = off + k + n by omega]

/-- A number or a string. -/
def Lexeme.isLiteral : Lexeme → Bool
  | .int _ | .float _ | .string _ | .block _ => true
  | _ => false

theorem isLiteral_of_scanNumber {s : List Char} {l : Lexeme} {more : ℕ}
    (h : scanNumber s = .token l more) : l.isLiteral := by
  unfold scanNumber at h
  split at h
  · simp only [Scan.token.injEq] at h
    rw [← h.1]
    split <;> rfl
  · cases h

theorem isLiteral_of_scanString {rest : List Char} {l : Lexeme} {more : ℕ}
    (h : scanString rest = .token l more) : l.isLiteral := by
  unfold scanString at h
  split at h <;> split at h <;> cases h <;> rfl

/-- A token is a name, which ends where its characters end, a mark, a number or a string. -/
theorem scan_eq_token {c : Char} {rest : List Char} {l : Lexeme} {more : ℕ}
    (h : scan c rest = .token l more) :
    (isNameStart c ∧ l = .name (String.ofList (c :: rest.takeWhile isNamePart)) ∧
      more = (rest.takeWhile isNamePart).length) ∨
    (c = '.' ∧ rest.take 2 = ['.', '.'] ∧ l = .mark .spread ∧ more = 2) ∨
    (∃ m, Mark.ofChar? c = some m ∧ l = .mark m ∧ more = 0) ∨ l.isLiteral := by
  unfold scan at h
  split at h
  · cases h
  split at h
  · cases h
  split at h
  · next hname =>
    cases h
    exact .inl ⟨hname, rfl, rfl⟩
  split at h
  · exact .inr (.inr (.inr (isLiteral_of_scanNumber h)))
  split at h
  · exact .inr (.inr (.inr (isLiteral_of_scanString h)))
  split at h
  · next hspread =>
    cases h
    simp only [Bool.and_eq_true, decide_eq_true_eq] at hspread
    exact .inr (.inl ⟨hspread.1, hspread.2, rfl, rfl⟩)
  split at h
  · next m hm =>
    cases h
    exact .inr (.inr (.inl ⟨m, hm, rfl, rfl⟩))
  · cases h

theorem scan_eq_skip {c : Char} {rest : List Char} {more : ℕ} (h : scan c rest = .skip more) :
    isSeparator c ∧ more = 0 ∨
      isSeparator c = false ∧ c = '#' ∧ more = (rest.takeWhile (!isLineEnd ·)).length := by
  unfold scan at h
  split at h
  · next hseparator =>
    cases h
    exact .inl ⟨hseparator, rfl⟩
  split at h
  · next hseparator hcomment =>
    cases h
    exact .inr ⟨by simpa using hseparator, hcomment, rfl⟩
  split at h
  · cases h
  split at h
  · unfold scanNumber at h
    split at h <;> cases h
  split at h
  · unfold scanString at h
    split at h <;> split at h <;> cases h
  split at h
  · cases h
  split at h <;> cases h

theorem ofChar?_eq_closeBrace {c : Char} (h : Mark.ofChar? c = some .closeBrace) : c = '\x7d' := by
  unfold Mark.ofChar? at h
  split at h <;> first | rfl | cases h

theorem scan_eq_closeBrace {c : Char} {rest : List Char} {more : ℕ}
    (h : scan c rest = .token (.mark .closeBrace) more) : c = '\x7d' ∧ more = 0 := by
  rcases scan_eq_token h with ⟨-, hl, -⟩ | ⟨-, -, hl, -⟩ | ⟨m, hm, hl, hmore⟩ | hl
  · cases hl
  · cases hl
  · obtain rfl : .closeBrace = m := Lexeme.mark.inj hl
    exact ⟨ofChar?_eq_closeBrace hm, hmore⟩
  · cases hl

theorem tokensFrom_closeBrace (off : ℕ) (rest : List Char) :
    tokensFrom off ('\x7d' :: rest) =
      ⟨.mark .closeBrace, off, off + 1⟩ :: tokensFrom (off + 1) rest :=
  tokensFrom_mark rfl off

/-- The tokens from some token on are those of the text from there on. -/
theorem tokensFrom_suffix {off : ℕ} {s : List Char} {front behind : List Token} {t : Token}
    (h : tokensFrom off s = front ++ t :: behind)
    (ht : ∀ f, t.lexeme = .broken f → behind ≠ []) :
    ∃ n, t.start = off + n ∧ tokensFrom t.start (s.drop n) = t :: behind := by
  fun_induction tokensFrom off s generalizing front with
  | case1 off =>
    obtain ⟨rfl, hone⟩ := List.append_eq_singleton_iff.mp h.symm |>.resolve_right (by simp)
    obtain ⟨rfl, rfl⟩ := List.cons.inj hone
    exact ⟨0, rfl, by simp [tokensFrom]⟩
  | case2 off c rest more hscan ih =>
    obtain ⟨n, hn, htokens⟩ := ih h
    refine ⟨n + more + 1, by omega, ?_⟩
    rw [← htokens, List.drop_succ_cons, Nat.add_comm n more, List.drop_drop]
  | case3 off c rest l more hscan ih =>
    cases front with
    | nil =>
      obtain ⟨rfl, htail⟩ := List.cons.inj h
      exact ⟨0, rfl, by rw [List.drop_zero, tokensFrom_of_token hscan, ← htail]⟩
    | cons a front =>
      obtain ⟨n, hn, htokens⟩ := ih (List.cons.inj h).2
      refine ⟨n + more + 1, by omega, ?_⟩
      rw [← htokens, List.drop_succ_cons, Nat.add_comm n more, List.drop_drop]
  | case4 off c rest f k hscan =>
    obtain ⟨rfl, hone⟩ := List.append_eq_singleton_iff.mp h.symm |>.resolve_right (by simp)
    obtain ⟨rfl, rfl⟩ := List.cons.inj hone
    exact absurd rfl (ht f rfl)

theorem tokensFrom_brace_head {s : List Char} {t : Token} {behind : List Token}
    (h : tokensFrom t.start s = t :: behind) (ht : t.lexeme = .mark .closeBrace) :
    ∃ rest, s = '\x7d' :: rest ∧ t.stop = t.start + 1 := by
  cases s with
  | nil =>
    rw [tokensFrom] at h
    obtain ⟨heq, -⟩ := List.cons.inj h
    rw [← heq] at ht
    cases ht
  | cons c rest =>
    rw [tokensFrom] at h
    split at h
    · rw [← List.nil_append (t :: behind)] at h
      obtain ⟨n, hn, -⟩ := tokensFrom_suffix h (by simp [ht])
      omega
    · rename_i l more hscan
      obtain ⟨heq, -⟩ := List.cons.inj h
      have hl : l = .mark .closeBrace := by rw [← ht, ← heq]
      obtain ⟨rfl, rfl⟩ := scan_eq_closeBrace (hl ▸ hscan)
      exact ⟨rest, rfl, by rw [← heq]⟩
    · obtain ⟨heq, -⟩ := List.cons.inj h
      rw [← heq] at ht
      cases ht

/-- A closing brace among the tokens of a text stands in the text. -/
theorem brace_of_tokensFrom {off : ℕ} {s : List Char} {front behind : List Token} {t : Token}
    (h : tokensFrom off s = front ++ t :: behind) (ht : t.lexeme = .mark .closeBrace) :
    ∃ n, t.start = off + n ∧ t.stop = off + n + 1 ∧ n < s.length := by
  obtain ⟨n, hn, htokens⟩ := tokensFrom_suffix h (by simp [ht])
  obtain ⟨rest, hrest, hstop⟩ := tokensFrom_brace_head htokens ht
  refine ⟨n, hn, by omega, ?_⟩
  have hlength := congrArg List.length hrest
  simp only [List.length_drop, List.length_cons] at hlength
  omega

/-- The tokens up to a closing brace are told by the characters up to it. -/
theorem tokensFrom_congr {off : ℕ} {s s' : List Char} {front behind : List Token} {t : Token}
    (h : tokensFrom off s = front ++ t :: behind) (ht : t.lexeme = .mark .closeBrace)
    (hs : Agree (t.stop - off) s s') :
    tokensFrom off s' = front ++ t :: tokensFrom t.stop (s'.drop (t.stop - off)) := by
  obtain ⟨n, hstart, hstop, -⟩ := brace_of_tokensFrom h ht
  rw [show t.stop - off = n + 1 by omega] at hs ⊢
  fun_induction tokensFrom off s generalizing front n s' with
  | case1 off =>
    obtain ⟨rfl, hone⟩ := List.append_eq_singleton_iff.mp h.symm |>.resolve_right (by simp)
    obtain ⟨rfl, rfl⟩ := List.cons.inj hone
    cases ht
  | case2 off c rest more hscan ih =>
    obtain ⟨k, hk, -, -⟩ := brace_of_tokensFrom h ht
    obtain ⟨rest', rfl, hrest⟩ := agree_cons_iff.mp hs
    have hscan' := scan_congr hscan (.inl rfl) (hrest.mono (by omega))
    rw [tokensFrom_of_skip hscan', ih h k (Agree.drop (hrest.mono (by omega))) hk (by omega)]
    simp [show n = more + (k + 1) by omega]
  | case3 off c rest l more hscan ih =>
    obtain ⟨rest', rfl, hrest⟩ := agree_cons_iff.mp hs
    cases front with
    | nil =>
      obtain ⟨rfl, -⟩ := List.cons.inj h
      obtain rfl : l = .mark .closeBrace := ht
      obtain ⟨rfl, rfl⟩ := scan_eq_closeBrace hscan
      obtain rfl : n = 0 := by simpa using hstart.symm
      rw [tokensFrom_closeBrace]
      rfl
    | cons a front =>
      obtain ⟨ha, htail⟩ := List.cons.inj h
      obtain ⟨k, hk, -, -⟩ := brace_of_tokensFrom htail ht
      have hscan' := scan_congr hscan (.inr ⟨l, rfl⟩) (hrest.mono (by omega))
      rw [tokensFrom_of_token hscan',
        ih htail k (Agree.drop (hrest.mono (by omega))) hk (by omega)]
      simp [ha, show n = more + (k + 1) by omega]
  | case4 off c rest f k hscan =>
    obtain ⟨rfl, hone⟩ := List.append_eq_singleton_iff.mp h.symm |>.resolve_right (by simp)
    obtain ⟨rfl, rfl⟩ := List.cons.inj hone
    cases ht

/-- Wherever a piece of text is put and whatever follows it, it reads as these tokens, whose
places are counted from its beginning. -/
structure Spells (piece : List Char) (ts : List Token) : Prop where
  tokensFrom_append : ∀ off rest, tokensFrom off (piece ++ rest) =
    ts.map (Token.behind off) ++ tokensFrom (off + piece.length) rest
  start : ts.head?.map Token.start = some 0
  stop : ts.getLast?.map Token.stop = some piece.length

/-- A piece that reads as some tokens behind a place, whatever follows it, spells these tokens. -/
theorem exists_spells_of_map_behind {piece : List Char} {used : List Token} {place : ℕ}
    (hreads : ∀ rest, (tokensFrom 0 (piece ++ rest)).map (Token.behind place) =
      used ++ (tokensFrom piece.length rest).map (Token.behind place))
    (hstart : used.head?.map Token.start = some place)
    (hstop : used.getLast?.map Token.stop = some (piece.length + place)) :
    ∃ ts, ts.map Token.lexeme = used.map Token.lexeme ∧ Spells piece ts := by
  obtain ⟨ts, behind, hts, hmap, -⟩ := List.map_eq_append_iff.mp (hreads [])
  refine ⟨ts, ?_, ?_, ?_, ?_⟩
  · rw [← hmap, List.map_map]
    rfl
  · intro off rest
    obtain ⟨ts', behind', hts', hmap', hbehind⟩ := List.map_eq_append_iff.mp (hreads rest)
    obtain rfl : ts' = ts :=
      List.map_injective_iff.mpr (Token.behind_injective _) (hmap'.trans hmap.symm)
    obtain rfl : behind' = tokensFrom piece.length rest :=
      List.map_injective_iff.mpr (Token.behind_injective _) hbehind
    have hoff := tokensFrom_add 0 off (piece ++ rest)
    rw [Nat.zero_add] at hoff
    rw [hoff, hts', List.map_append, ← tokensFrom_add, Nat.add_comm]
  · rw [← hmap, List.head?_map, Option.map_map, Option.map_eq_some_iff] at hstart
    obtain ⟨t, ht, hplace⟩ := hstart
    have hplace : t.start + place = place := hplace
    rw [ht, Option.map_some, show t.start = 0 by omega]
  · rw [← hmap, List.getLast?_map, Option.map_map, Option.map_eq_some_iff] at hstop
    obtain ⟨t, ht, hplace⟩ := hstop
    have hplace : t.stop + place = piece.length + place := hplace
    rw [ht, Option.map_some, show t.stop = piece.length by omega]

/-- The characters up to a closing brace read as the tokens up to it, counted from their place. -/
theorem map_behind_tokensFrom {place : ℕ} {s piece rest : List Char} {init behind : List Token}
    {last : Token} (h : tokensFrom place s = init ++ last :: behind)
    (hbrace : last.lexeme = .mark .closeBrace) (hpiece : piece = s.take (last.stop - place))
    (hlength : piece.length + place = last.stop) :
    (tokensFrom 0 (piece ++ rest)).map (Token.behind place) =
      init ++ last :: (tokensFrom piece.length rest).map (Token.behind place) := by
  have hstop : last.stop - place = piece.length := by omega
  rw [hstop] at hpiece
  have hagree : Agree (last.stop - place) s (piece ++ rest) := by
    rw [hstop, Agree, List.take_left, ← hpiece]
  have hcongr := tokensFrom_congr h hbrace hagree
  rw [hstop, List.drop_left] at hcongr
  rw [← tokensFrom_add, Nat.zero_add, hcongr, ← tokensFrom_add, hlength]

/-- The piece of a text between two of its tokens, the last one a closing brace. -/
theorem exists_spells {s : List Char} {front used behind : List Token} {first last : Token}
    (h : tokensFrom 0 s = front ++ used ++ behind) (hfirst : used.head? = some first)
    (hlast : used.getLast? = some last) (hbrace : last.lexeme = .mark .closeBrace) :
    ∃ ts, ts.map Token.lexeme = used.map Token.lexeme ∧
      Spells ((s.drop first.start).take (last.stop - first.start)) ts := by
  obtain ⟨tail, rfl⟩ := List.head?_eq_some_iff.mp hfirst
  obtain ⟨init, hinit⟩ := List.getLast?_eq_some_iff.mp hlast
  have hunbroken : ∀ f, first.lexeme = .broken f → tail ++ behind ≠ [] := by
    intro f hf hnil
    obtain ⟨rfl, -⟩ := List.append_eq_nil_iff.mp hnil
    obtain rfl : first = last := by simpa using hlast
    rw [hbrace] at hf
    cases hf
  rw [List.append_assoc, List.cons_append] at h
  obtain ⟨k, hk, hfrom⟩ := tokensFrom_suffix h hunbroken
  obtain rfl : k = first.start := by omega
  have hused : tokensFrom first.start (s.drop first.start) = init ++ last :: behind := by
    rw [hfrom, ← List.cons_append, hinit, List.append_assoc]
    rfl
  obtain ⟨n, -, hstop, hn⟩ := brace_of_tokensFrom hused hbrace
  have hlength : ((s.drop first.start).take (last.stop - first.start)).length + first.start =
      last.stop := by
    rw [List.length_take]
    omega
  refine exists_spells_of_map_behind (fun rest => ?_) rfl ?_
  · rw [map_behind_tokensFrom hused hbrace rfl hlength, hinit, List.append_assoc]
    rfl
  · rw [hlast, hlength]
    rfl

end OperationClasses.Syntax
