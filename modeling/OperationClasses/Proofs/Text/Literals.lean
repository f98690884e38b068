import Mathlib.Algebra.Group.Nat.Defs
import Mathlib.Tactic.SplitIfs
import OperationClasses.PythonModule.Literal
import OperationClasses.Text.Blank
import OperationClasses.Text.Quoted

/-!
# Reading literals

A verbatim literal is read up to the first double quote that is not doubled, an escaped one as a
Python module reads it. Either way the text comes back that was written, whatever its characters
are, and what stands behind the literal is left.
-/
namespace OperationClasses

open Text

namespace Text

/-- The text that the inside of a verbatim literal stands for, and the characters behind the quote
that closes it. -/
def verbatimInside? : List Char → Option (List Char × List Char)
  | [] => none
  | '"' :: '"' :: rest => (verbatimInside? rest).map fun p => ('"' :: p.1, p.2)
  | '"' :: rest => some ([], rest)
  | c :: rest => (verbatimInside? rest).map fun p => (c :: p.1, p.2)

/-- The text of a verbatim literal and the characters behind it. -/
def verbatimLiteral? : List Char → Option (String × List Char)
  | '@' :: '"' :: rest => (verbatimInside? rest).map fun p => (String.ofList p.1, p.2)
  | _ => none

theorem verbatimInside?_of_ne {c : Char} (h : c ≠ '"') (rest : List Char) :
    verbatimInside? (c :: rest) = (verbatimInside? rest).map fun p => (c :: p.1, p.2) := by
  rw [verbatimInside?]
  · rintro _ rfl
    exact absurd rfl h
  · rintro rfl
    exact absurd rfl h

theorem verbatimInside?_doubleQuotes (s behind : List Char)
    (h : behind.head? ≠ some '"') :
    verbatimInside? (doubleQuotes s ++ '"' :: behind) = some (s, behind) := by
  induction s with
  | nil =>
    rw [doubleQuotes, List.nil_append, verbatimInside?]
    rintro rest rfl
    exact h rfl
  | cons c s ih =>
    by_cases hc : c = '"'
    · simp [doubleQuotes, hc, verbatimInside?, ih]
    · simp [doubleQuotes, hc, verbatimInside?_of_ne, ih]

/-- The literal that starts a text is read to its end. -/
theorem verbatimLiteral?_verbatim (s : String) (behind : List Char)
    (h : behind.head? ≠ some '"') :
    verbatimLiteral? (("@\"" ++ verbatim s ++ "\"").toList ++ behind) = some (s, behind) := by
  have hread := verbatimInside?_doubleQuotes s.toList behind h
  simp [verbatim, verbatimLiteral?, hread]

theorem hexValue?_hexDigit (upper : Bool) {n : Nat} (h : n < 16) :
    hexValue? (hexDigit upper n) = some n := by
  have hall : ∀ b : Bool, ∀ n : Fin 16, hexValue? (hexDigit b n) = some n.val := by decide
  exact hall upper ⟨n, h⟩

@[simp] theorem length_hexFixed (upper : Bool) (width n : Nat) :
    (hexFixed upper width n).length = width := by
  induction width generalizing n with
  | zero => rfl
  | succ width ih => simp [hexFixed, ih]

theorem exists_digit_of_mem_hexFixed {upper : Bool} {width n : Nat} {c : Char}
    (h : c ∈ hexFixed upper width n) : ∃ d < 16, c = hexDigit upper d := by
  induction width generalizing n with
  | zero => cases h
  | succ width ih =>
    rw [hexFixed, List.mem_append, List.mem_singleton] at h
    rcases h with h | rfl
    · exact ih h
    · exact ⟨n % 16, Nat.mod_lt n (by omega), rfl⟩

/-- A numeral of fixed width spells the number, as far as its digits suffice. -/
theorem hexNumber?_hexFixed (upper : Bool) (width n : Nat) :
    hexNumber? (hexFixed upper width n) = some (n % 16 ^ width) := by
  induction width generalizing n with
  | zero => simp [hexFixed, hexNumber?, Nat.mod_one]
  | succ width ih =>
    have hdigit := hexValue?_hexDigit upper (Nat.mod_lt n (by omega : 16 > 0))
    have hvalue : 16 * (n / 16 % 16 ^ width) + n % 16 = n % 16 ^ (width + 1) := by
      rw [Nat.pow_succ, Nat.mul_comm (16 ^ width), Nat.mod_mul]
      omega
    unfold hexNumber? at ih ⊢
    rw [hexFixed, List.foldl_append, ih]
    simp [hdigit, hvalue]

theorem isLineBreak_hexDigit {d : Nat} (h : d < 16) : isLineBreak (hexDigit false d) = false := by
  have hall : ∀ n : Fin 16, isLineBreak (hexDigit false n) = false := by decide
  exact hall ⟨d, h⟩

theorem isPrintable_of_isLineBreak {c : Char} (h : isLineBreak c = true) :
    isPrintable c = false := by
  have hbreaks : ∀ n ∈ [10, 11, 12, 13, 28, 29, 30, 0x85, 0x2028, 0x2029],
      isPrintable (Char.ofNat n) = false := by
    decide +kernel
  rw [← Char.ofNat_toNat c]
  refine hbreaks c.toNat ?_
  simp only [isLineBreak, Bool.or_eq_true, Bool.and_eq_true, decide_eq_true_eq, beq_iff_eq] at h
  simp only [List.mem_cons, List.not_mem_nil, or_false]
  omega

theorem quoteFor_cases (s : List Char) : quoteFor s = '\'' ∨ quoteFor s = '"' := by
  unfold quoteFor
  split
  · exact .inr rfl
  · exact .inl rfl

/-- The marks of numbered characters, with the number of digits behind each of them. -/
def numberMarks : List (Char × Nat) := [('x', 2), ('u', 4), ('U', 8)]

/-- A character is written as itself, behind a backslash, as the letter of a control or by its
number. -/
theorem escapeChar_cases (q c : Char) :
    (c = q ∨ c = '\\') ∧ escapeChar q c = ['\\', c] ∨
      (∃ letter, (c, letter) ∈ [('\t', 't'), ('\n', 'n'), ('\r', 'r')] ∧
        escapeChar q c = ['\\', letter]) ∨
      (c ≠ q ∧ c ≠ '\\' ∧ isPrintable c = true) ∧ escapeChar q c = [c] ∨
      ∃ mark width, (mark, width) ∈ numberMarks ∧ c.toNat < 16 ^ width ∧
        escapeChar q c = '\\' :: mark :: hexFixed false width c.toNat := by
  have hsmall : c.toNat < 16 ^ 8 := by
    have hvalid : c.toNat.isValidChar := c.valid
    unfold Nat.isValidChar at hvalid
    omega
  generalize hwritten : escapeChar q c = written
  unfold escapeChar at hwritten
  split_ifs at hwritten with hself htab hline hreturn hprint hshort hlong
  · exact .inl ⟨by simpa using hself, hwritten.symm⟩
  · exact .inr (.inl ⟨'t', by simp [htab], hwritten.symm⟩)
  · exact .inr (.inl ⟨'n', by simp [hline], hwritten.symm⟩)
  · exact .inr (.inl ⟨'r', by simp [hreturn], hwritten.symm⟩)
  · have hne : c ≠ q ∧ c ≠ '\\' := by simpa using hself
    exact .inr (.inr (.inl ⟨⟨hne.1, hne.2, hprint⟩, hwritten.symm⟩))
  · exact .inr (.inr (.inr ⟨'x', 2, by decide, by omega, hwritten.symm⟩))
  · exact .inr (.inr (.inr ⟨'u', 4, by decide, by omega, hwritten.symm⟩))
  · exact .inr (.inr (.inr ⟨'U', 8, by decide, hsmall, hwritten.symm⟩))

/-- What is written for a character has no line break. -/
theorem isLineBreak_of_mem_escapeChar {q c d : Char} (hq : isLineBreak q = false)
    (h : d ∈ escapeChar q c) : isLineBreak d = false := by
  obtain ⟨hself, heq⟩ | ⟨letter, hletter, heq⟩ | ⟨⟨-, -, hprint⟩, heq⟩ |
    ⟨mark, width, hmark, -, heq⟩ := escapeChar_cases q c
  all_goals rw [heq] at h
  · simp only [List.mem_cons, List.not_mem_nil, or_false] at h
    rcases h with rfl | rfl
    · decide
    · rcases hself with rfl | rfl
      · exact hq
      · decide
  · have hletters : ∀ p ∈ [('\t', 't'), ('\n', 'n'), ('\r', 'r')], isLineBreak p.2 = false := by
      decide
    simp only [List.mem_cons, List.not_mem_nil, or_false] at h
    rcases h with rfl | rfl
    · decide
    · exact hletters (c, d) hletter
  · rw [List.mem_singleton.mp h, ← Bool.not_eq_true]
    intro hbreak
    rw [isPrintable_of_isLineBreak hbreak] at hprint
    cases hprint
  · have hmarks : ∀ p ∈ numberMarks, isLineBreak p.1 = false := by decide
    simp only [List.mem_cons] at h
    rcases h with rfl | rfl | h
    · decide
    · exact hmarks (d, width) hmark
    · obtain ⟨n, hn, rfl⟩ := exists_digit_of_mem_hexFixed h
      exact isLineBreak_hexDigit hn

/-- An escaped literal stands on one line. -/
theorem isLineBreak_of_mem_escaped {s : String} {c : Char} (h : c ∈ (escaped s).toList) :
    isLineBreak c = false := by
  have hquote : isLineBreak (quoteFor s.toList) = false := by
    rcases quoteFor_cases s.toList with hq | hq <;> rw [hq] <;> decide
  simp only [escaped, String.toList_ofList, escapedChars, List.mem_cons, List.mem_append,
    List.mem_flatMap, List.not_mem_nil, or_false] at h
  rcases h with rfl | ⟨d, -, hd⟩ | rfl
  · exact hquote
  · exact isLineBreak_of_mem_escapeChar hquote hd
  · exact hquote

end Text

namespace PythonModule

/-- The character that a letter behind a backslash stands for. -/
def letterEscape? : Char → Option Char
  | '\\' => some '\\'
  | '\'' => some '\''
  | '"' => some '"'
  | 'a' => some '\x07'
  | 'b' => some '\x08'
  | 'f' => some '\x0c'
  | 'n' => some '\n'
  | 'r' => some '\r'
  | 't' => some '\t'
  | 'v' => some '\x0b'
  | _ => none

/-- The character of a number, if it is the number of one. -/
def character? (n : Nat) : Option Char :=
  if n.isValidChar then some (Char.ofNat n) else none

/-- The character that hexadecimal digits spell, and how many they are. -/
def hexEscape? (count : Nat) (s : List Char) : Option (List Char × Nat) :=
  if (s.take count).length = count then
    ((hexNumber? (s.take count)).bind character?).map fun c => ([c], count)
  else none

/-- The character that up to three octal digits spell, and how many they are. -/
def octalEscape? (s : List Char) : Option (List Char × Nat) :=
  let digits := (s.take 3).takeWhile isOctalDigit
  (character? (digits.foldl (fun n d => 8 * n + (d.toNat - '0'.toNat)) 0)).map fun c =>
    ([c], digits.length)

/-- What the characters behind a backslash stand for, and how many of them belong to it. A
backslash in front of a character that needs none stays. The names of characters are not looked
up. -/
def escape? : List Char → Option (List Char × Nat)
  | [] => none
  | e :: rest =>
    if e = '\n' then some ([], 1)
    else if isOctalDigit e then octalEscape? (e :: rest)
    else if e = 'N' then none
    else match numberMarks.lookup e, letterEscape? e with
      | some count, _ => (hexEscape? count rest).map fun p => (p.1, p.2 + 1)
      | none, some c => some ([c], 1)
      | none, none => some (['\\', e], 1)

/-- The text that the inside of a literal stands for. -/
def unescape? : List Char → Option (List Char)
  | [] => some []
  | c :: rest =>
    if c = '\\' then
      match escape? rest with
      | some (cs, count) => (unescape? (rest.drop count)).map (cs ++ ·)
      | none => none
    else (unescape? rest).map (c :: ·)
termination_by s => s.length
decreasing_by
  · rw [List.length_drop, List.length_cons]
    omega
  · exact Nat.lt_succ_self _

/-- The text of a literal that is neither one of bytes nor formatted, and the characters behind
it. -/
def textLiteral? (s : List Char) : Option (String × List Char) := do
  let (o, rest) ← opening? s
  let (body, behind) ← inside o rest
  if o.isBytes || o.isFormatted then none
  else
    let cs ← if o.isRaw then some body else unescape? body
    return (String.ofList cs, behind)

theorem character?_toNat (c : Char) : character? c.toNat = some c := by
  have hvalid : c.toNat.isValidChar := c.valid
  simp [character?, hvalid]

/-- A numbered character is read back. -/
theorem hexEscape?_hexFixed {c : Char} {count : Nat} (h : c.toNat < 16 ^ count)
    (rest : List Char) :
    hexEscape? count (hexFixed false count c.toNat ++ rest) = some ([c], count) := by
  have htake : (hexFixed false count c.toNat ++ rest).take count =
      hexFixed false count c.toNat := by
    rw [List.take_append_of_le_length (by simp), List.take_of_length_le (by simp)]
  have hnumber : hexNumber? (hexFixed false count c.toNat) = some c.toNat := by
    rw [hexNumber?_hexFixed, Nat.mod_eq_of_lt h]
  simp [hexEscape?, htake, hnumber, character?_toNat]

theorem unescape?_backslash {s cs : List Char} {count : Nat} (h : escape? s = some (cs, count)) :
    unescape? ('\\' :: s) = (unescape? (s.drop count)).map (cs ++ ·) := by
  rw [unescape?, if_pos rfl, h]

/-- What is written for a character is read as that character. -/
theorem unescape?_escapeChar {q : Char} (hq : q = '\'' ∨ q = '"') (c : Char) (rest : List Char) :
    unescape? (escapeChar q c ++ rest) = (unescape? rest).map (c :: ·) := by
  obtain ⟨hself, heq⟩ | ⟨letter, hletter, heq⟩ | ⟨⟨-, hne, -⟩, heq⟩ |
    ⟨mark, width, hmark, hlt, heq⟩ := escapeChar_cases q c
  all_goals rw [heq]
  · have hescape : escape? (c :: rest) = some ([c], 1) := by
      rcases hself with rfl | rfl
      · rcases hq with rfl | rfl <;> rfl
      · rfl
    exact unescape?_backslash hescape
  · have hescape : escape? (letter :: rest) = some ([c], 1) := by
      simp only [List.mem_cons, List.not_mem_nil, or_false, Prod.mk.injEq] at hletter
      rcases hletter with ⟨rfl, rfl⟩ | ⟨rfl, rfl⟩ | ⟨rfl, rfl⟩ <;> rfl
    exact unescape?_backslash hescape
  · rw [List.singleton_append, unescape?, if_neg hne]
  · have hescape : escape? (mark :: (hexFixed false width c.toNat ++ rest)) =
        some ([c], width + 1) := by
      have hhex := hexEscape?_hexFixed hlt rest
      simp only [numberMarks, List.mem_cons, List.not_mem_nil, or_false, Prod.mk.injEq] at hmark
      rcases hmark with ⟨rfl, rfl⟩ | ⟨rfl, rfl⟩ | ⟨rfl, rfl⟩ <;>
        simp [escape?, isOctalDigit, numberMarks, List.lookup_cons, hhex]
    rw [List.cons_append, List.cons_append, unescape?_backslash hescape, List.drop_succ_cons,
      List.drop_left' (length_hexFixed false width c.toNat)]
    rfl

theorem unescape?_flatMap {q : Char} (hq : q = '\'' ∨ q = '"') (s : List Char) :
    unescape? (s.flatMap (escapeChar q)) = some s := by
  induction s with
  | nil => simp [unescape?]
  | cons c s ih => rw [List.flatMap_cons, unescape?_escapeChar hq, ih, Option.map_some]

/-- A literal on one line between single quotes. -/
def singleQuoted (q : Char) : Opening := ⟨false, false, false, q, false⟩

theorem inside_quote (q : Char) (rest : List Char) :
    inside (singleQuoted q) (q :: rest) = some ([], rest) := by
  rw [inside.eq_def]
  simp [singleQuoted]

theorem inside_cons {q c : Char} (hq : c ≠ q) (hline : c ≠ '\n') (hslash : c ≠ '\\')
    (rest : List Char) :
    inside (singleQuoted q) (c :: rest) =
      (inside (singleQuoted q) rest).map fun p => (c :: p.1, p.2) := by
  rw [inside.eq_def]
  simp [singleQuoted, hq, hline, hslash]

theorem inside_backslash {q : Char} (hq : q ≠ '\\') (c : Char) (rest : List Char) :
    inside (singleQuoted q) ('\\' :: c :: rest) =
      (inside (singleQuoted q) rest).map fun p => ('\\' :: c :: p.1, p.2) := by
  rw [inside.eq_def]
  simp [singleQuoted, hq.symm]

theorem inside_hexFixed {q : Char} (hq : q = '\'' ∨ q = '"') (width n : Nat)
    (rest : List Char) :
    inside (singleQuoted q) (hexFixed false width n ++ rest) =
      (inside (singleQuoted q) rest).map fun p => (hexFixed false width n ++ p.1, p.2) := by
  have hdigit : ∀ c ∈ hexFixed false width n, c ≠ q ∧ c ≠ '\n' ∧ c ≠ '\\' := by
    have hnone : ['\'', '"', '\n', '\\'].all fun other => (hexValue? other).isNone := by decide
    intro c hc
    obtain ⟨d, hd, rfl⟩ := exists_digit_of_mem_hexFixed hc
    have hne : ∀ other ∈ ['\'', '"', '\n', '\\'], hexDigit false d ≠ other := by
      intro other hother heq
      have hvalue := List.all_eq_true.mp hnone other hother
      rw [← heq, hexValue?_hexDigit false hd] at hvalue
      cases hvalue
    have hquote : q ∈ ['\'', '"', '\n', '\\'] := by
      rcases hq with rfl | rfl <;> decide
    exact ⟨hne q hquote, hne '\n' (by decide), hne '\\' (by decide)⟩
  generalize hexFixed false width n = digits at hdigit ⊢
  induction digits with
  | nil => simp
  | cons c digits ih =>
    rw [List.forall_mem_cons] at hdigit
    rw [List.cons_append, inside_cons hdigit.1.1 hdigit.1.2.1 hdigit.1.2.2, ih hdigit.2,
      Option.map_map]
    rfl

/-- What is written for a character does not end the literal. -/
theorem inside_escapeChar {q : Char} (hq : q = '\'' ∨ q = '"') (c : Char) (rest : List Char) :
    inside (singleQuoted q) (escapeChar q c ++ rest) =
      (inside (singleQuoted q) rest).map fun p => (escapeChar q c ++ p.1, p.2) := by
  have hslash : q ≠ '\\' := by rcases hq with rfl | rfl <;> decide
  obtain ⟨-, heq⟩ | ⟨letter, -, heq⟩ | ⟨⟨hne, hback, hprint⟩, heq⟩ |
    ⟨mark, width, -, -, heq⟩ := escapeChar_cases q c
  all_goals rw [heq]
  · exact inside_backslash hslash c rest
  · exact inside_backslash hslash letter rest
  · have hline : c ≠ '\n' := by
      rintro rfl
      cases hprint
    exact inside_cons hne hline hback rest
  · rw [List.cons_append, List.cons_append, inside_backslash hslash, inside_hexFixed hq,
      Option.map_map]
    rfl

theorem inside_flatMap {q : Char} (hq : q = '\'' ∨ q = '"') (s behind : List Char) :
    inside (singleQuoted q) (s.flatMap (escapeChar q) ++ q :: behind) =
      some (s.flatMap (escapeChar q), behind) := by
  induction s with
  | nil => exact inside_quote q behind
  | cons c s ih =>
    rw [List.flatMap_cons, List.append_assoc, inside_escapeChar hq, ih, Option.map_some]

theorem exists_of_inside_cons {q c : Char} (hq : c ≠ q) (hslash : c ≠ '\\')
    {rest body behind : List Char}
    (h : inside (singleQuoted q) (c :: rest) = some (body, behind)) :
    ∃ body', body = c :: body' ∧ inside (singleQuoted q) rest = some (body', behind) := by
  have hline : c ≠ '\n' := by
    rintro rfl
    rw [inside.eq_def] at h
    simp [singleQuoted, hq] at h
  rw [inside_cons hq hline hslash, Option.map_eq_some_iff] at h
  obtain ⟨⟨body', behind'⟩, hinside, heq⟩ := h
  obtain ⟨rfl, rfl⟩ := Prod.mk.inj heq
  exact ⟨body', rfl, hinside⟩

theorem exists_of_inside_backslash {q c : Char} (hq : q ≠ '\\') {rest body behind : List Char}
    (h : inside (singleQuoted q) ('\\' :: c :: rest) = some (body, behind)) :
    ∃ body', body = '\\' :: c :: body' ∧ inside (singleQuoted q) rest = some (body', behind) := by
  rw [inside_backslash hq, Option.map_eq_some_iff] at h
  obtain ⟨⟨body', behind'⟩, hinside, heq⟩ := h
  obtain ⟨rfl, rfl⟩ := Prod.mk.inj heq
  exact ⟨body', rfl, hinside⟩

/-- A literal goes no further than to a quote that stands behind something else than a backslash. -/
theorem length_inside_le {q c : Char} (hq : q ≠ '\\') (hc : c ≠ '\\') {rest behind : List Char} :
    ∀ {front body : List Char},
      inside (singleQuoted q) (front ++ c :: q :: rest) = some (body, behind) →
        body.length ≤ front.length + 1
  | [], body, h => by
    by_cases hquote : c = q
    · rw [List.nil_append, hquote, inside_quote] at h
      obtain ⟨rfl, -⟩ := Prod.mk.inj (Option.some.inj h)
      exact Nat.zero_le _
    · obtain ⟨body', rfl, hrest⟩ := exists_of_inside_cons hquote hc h
      rw [inside_quote] at hrest
      obtain ⟨rfl, -⟩ := Prod.mk.inj (Option.some.inj hrest)
      exact Nat.le_refl _
  | a :: front, body, h => by
    by_cases hquote : a = q
    · rw [List.cons_append, hquote, inside_quote] at h
      obtain ⟨rfl, -⟩ := Prod.mk.inj (Option.some.inj h)
      exact Nat.zero_le _
    by_cases hslash : a = '\\'
    · subst hslash
      cases front with
      | nil =>
        obtain ⟨body', rfl, hrest⟩ := exists_of_inside_backslash hq h
        rw [inside_quote] at hrest
        obtain ⟨rfl, -⟩ := Prod.mk.inj (Option.some.inj hrest)
        exact Nat.le_refl _
      | cons d front =>
        obtain ⟨body', rfl, hrest⟩ := exists_of_inside_backslash hq h
        have := length_inside_le hq hc hrest
        simpa using this
    · obtain ⟨body', rfl, hrest⟩ := exists_of_inside_cons hquote hslash h
      have := length_inside_le hq hc hrest
      simpa using this

/-- No escaped literal ends in another one behind a sign of equality. -/
theorem escaped_ne_append_escaped (s s' : String) (front : List Char) :
    (escaped s).toList ≠ front ++ '=' :: (escaped s').toList := by
  simp only [escaped, String.toList_ofList, escapedChars]
  have hq := quoteFor_cases s.toList
  have hslash : quoteFor s.toList ≠ '\\' := by rcases hq with h | h <;> rw [h] <;> decide
  have hequals : quoteFor s.toList ≠ '=' := by rcases hq with h | h <;> rw [h] <;> decide
  have hread := inside_flatMap hq s.toList []
  generalize quoteFor s.toList = q at *
  generalize s.toList.flatMap (escapeChar q) = body at *
  generalize quoteFor s'.toList = q'
  generalize s'.toList.flatMap (escapeChar q') = body'
  intro heq
  cases front with
  | nil => exact hequals (List.cons.inj heq).1
  | cons a front =>
    have hinner : body ++ [q] = front ++ '=' :: q' :: (body' ++ [q']) := (List.cons.inj heq).2
    have hlast : body = front ++ '=' :: q' :: body' ∧ q = q' := by
      have hsplit : front ++ '=' :: q' :: (body' ++ [q']) =
          (front ++ '=' :: q' :: body') ++ [q'] := by
        simp
      rw [hsplit] at hinner
      obtain ⟨hbody, hquote⟩ := List.append_inj' hinner rfl
      exact ⟨hbody, (List.cons.inj hquote).1⟩
    obtain ⟨hbody, rfl⟩ := hlast
    rw [hinner] at hread
    have hlength := length_inside_le hslash (by decide) hread
    simp [hbody] at hlength

/-- The opening quote of an escaped literal stands alone. -/
theorem opening?_escapedChars (s behind : List Char)
    (h : behind.head? ≠ some (quoteFor s)) :
    opening? (escapedChars s ++ behind) = some (singleQuoted (quoteFor s),
      s.flatMap (escapeChar (quoteFor s)) ++ quoteFor s :: behind) := by
  have hq := quoteFor_cases s
  have halone : [quoteFor s, quoteFor s].isPrefixOf
      (s.flatMap (escapeChar (quoteFor s)) ++ quoteFor s :: behind) = false := by
    generalize quoteFor s = q at hq h
    cases s with
    | nil =>
      cases behind with
      | nil => simp [List.isPrefixOf]
      | cons c behind =>
        have hc : c ≠ q := by simpa using h
        simp [List.isPrefixOf, hc.symm]
    | cons c s =>
      have hslash : q ≠ '\\' := by rcases hq with rfl | rfl <;> decide
      obtain ⟨-, heq⟩ | ⟨letter, -, heq⟩ | ⟨⟨hne, -, -⟩, heq⟩ | ⟨mark, width, -, -, heq⟩ :=
        escapeChar_cases q c
      all_goals rw [List.flatMap_cons, heq]
      · simp [List.isPrefixOf, hslash]
      · simp [List.isPrefixOf, hslash]
      · simp [List.isPrefixOf, hne.symm]
      · simp [List.isPrefixOf, hslash]
  have hletters : ((escapedChars s ++ behind).take 2).takeWhile Char.isAlpha = [] := by
    have halpha : (quoteFor s).isAlpha = false := by
      rcases hq with hq | hq <;> rw [hq] <;> decide
    simp [escapedChars, halpha]
  have hbehind : escapedChars s ++ behind =
      quoteFor s :: (s.flatMap (escapeChar (quoteFor s)) ++ quoteFor s :: behind) := by
    simp [escapedChars]
  rw [opening?, hletters, hbehind]
  have hquote : quoteFor s = '"' ∨ quoteFor s = '\'' := hq.symm
  simp [announced?, hquote, halone, singleQuoted]

/-- An escaped literal at the beginning of a text is read to its end, and stands for the text that
was written. -/
theorem textLiteral?_escaped (s : String) (behind : List Char)
    (h : behind.head? ≠ some (quoteFor s.toList)) :
    textLiteral? ((escaped s).toList ++ behind) = some (s, behind) := by
  have hq := quoteFor_cases s.toList
  have hinside := inside_flatMap hq s.toList behind
  have hopening := opening?_escapedChars s.toList behind h
  have hread := unescape?_flatMap hq s.toList
  rw [escaped, String.toList_ofList, textLiteral?, hopening]
  simp only [Option.bind_eq_bind, Option.bind_some, hinside]
  simp [singleQuoted, hread]

end PythonModule

end OperationClasses
