import OperationClasses.Proofs.Naming.Wrappers
import OperationClasses.Proofs.Syntax.Ignored
import OperationClasses.Proofs.Syntax.Pieces

/-!
# Texts of type references

The lexer reads from the text of a written reference the names and marks that it is made of, and the
parser makes the reference of them again, as long as there are no more lists around the name than
levels may be open. One list more is refused, at the place behind the first bracket that is one too
many. The other way round, what is parsed from a text is a written reference, and the text is that
of the reference with ignored characters in between.
-/
namespace OperationClasses

open Syntax

namespace Syntax.Parse

variable {ts rest : List Token} {t : Token}

theorem takeIf_cons (c : Lexeme → Bool) (h : ∀ f, t.lexeme ≠ .broken f) :
    takeIf c (t :: ts) = .ok (c t.lexeme, if c t.lexeme then ts else t :: ts) := by
  have hlook : look c (t :: ts) = .ok (c t.lexeme, t :: ts) := by
    rw [look, bind_of_eq_ok (current_cons h)]
    rfl
  rw [takeIf, bind_of_eq_ok hlook]
  cases c t.lexeme <;> rfl

theorem exists_cons_of_nextLexeme {l : Lexeme} (h : nextLexeme ts = l) (hl : l ≠ .finish) :
    ∃ t, t.lexeme = l ∧ ts = t :: ts.tail := by
  obtain ⟨t, hts, ht⟩ := exists_of_nextLexeme (h ▸ hl)
  exact ⟨t, ht.trans h, hts⟩

theorem skipMark_eq_ok {m : Mark} {b : Bool} (h : skipMark m ts = .ok (b, rest)) :
    if b then ∃ t, t.lexeme = .mark m ∧ ts = t :: rest else rest = ts := by
  rw [skipMark_eq_takeIf] at h
  obtain ⟨hnext, hrest⟩ := takeIf_eq_ok h
  cases b with
  | false => exact hrest
  | true =>
    obtain ⟨t, ht, hts⟩ := exists_cons_of_nextLexeme (beq_iff_eq.mp hnext) (by simp)
    exact ⟨t, ht, hts.trans (congrArg (t :: ·) hrest.symm)⟩

theorem expectMark_cons {m : Mark} (h : t.lexeme = .mark m) :
    expectMark m (t :: ts) = .ok ((), ts) := by
  rw [expectMark, bind_of_eq_ok (current_cons (by simp [h])), h, beq_self_eq_true, if_pos rfl]
  rfl

theorem expectMark_eq_ok {m : Mark} (h : expectMark m ts = .ok ((), rest)) :
    ∃ t, t.lexeme = .mark m ∧ ts = t :: rest := by
  obtain ⟨t, mid, ht, hrest⟩ := bind_eq_ok_iff.mp h
  obtain ⟨rfl, hlexeme, -⟩ := current_eq_ok ht
  by_cases hmark : t.lexeme = .mark m
  · rw [beq_iff_eq.mpr hmark, if_pos rfl] at hrest
    cases hrest
    exact exists_cons_of_nextLexeme (hlexeme.symm.trans hmark) (by simp)
  · rw [beq_eq_false_iff_ne.mpr hmark, if_neg (by simp)] at hrest
    cases hrest

theorem name_cons {s : String} (h : t.lexeme = .name s) : name (t :: ts) = .ok (s, ts) := by
  rw [name, bind_of_eq_ok (current_cons (by simp [h])), h]
  rfl

theorem name_eq_ok {s : String} (h : name ts = .ok (s, rest)) :
    ∃ t, t.lexeme = .name s ∧ ts = t :: rest := by
  obtain ⟨t, mid, ht, hrest⟩ := bind_eq_ok_iff.mp h
  obtain ⟨rfl, hlexeme, -⟩ := current_eq_ok ht
  cases hname : t.lexeme with
  | name s' =>
    rw [hname] at hrest
    obtain ⟨⟨⟩, after, hadvance, hpure⟩ := bind_eq_ok_iff.mp hrest
    obtain ⟨rfl, rfl⟩ := pure_eq_ok_iff.mp hpure
    cases hadvance
    exact exists_cons_of_nextLexeme (hlexeme.symm.trans hname) (by simp)
  | _ =>
    rw [hname] at hrest
    cases hrest

end Syntax.Parse

namespace TypeRef

variable {t e : TypeRef} {isMarked : Bool}

/-- A reference, marked or not. -/
def marked (t : TypeRef) (isMarked : Bool) : TypeRef := if isMarked then .nonNull t else t

/-- The mark behind a reference, if it is marked. -/
def bangs (isMarked : Bool) : List Lexeme := if isMarked then [.mark .bang] else []

/-- The names and marks that a reference is written with. -/
def lexemes : TypeRef → List Lexeme
  | .named name? => (name?.map Lexeme.name).toList
  | .list e => .mark .openBracket :: (e.lexemes ++ [.mark .closeBracket])
  | .nonNull t => t.lexemes ++ [.mark .bang]
  | .misnamed _ | .tableNamed _ | .other _ => []

/-- The characters of these names and marks. -/
def chars (t : TypeRef) : List Char := t.lexemes.flatMap Lexeme.spelling

theorem lexemes_marked (t : TypeRef) (isMarked : Bool) :
    (t.marked isMarked).lexemes = t.lexemes ++ bangs isMarked := by
  cases isMarked <;> simp [marked, bangs, lexemes]

theorem lexemes_listOf (e : TypeRef) (isMarked : Bool) :
    (e.listOf isMarked).lexemes =
      .mark .openBracket :: (e.lexemes ++ .mark .closeBracket :: bangs isMarked) := by
  cases isMarked <;> simp [listOf, bangs, lexemes]

theorem chars_listOf (e : TypeRef) (isMarked : Bool) :
    (e.listOf isMarked).chars =
      '[' :: (e.chars ++ ']' :: (bangs isMarked).flatMap Lexeme.spelling) := by
  simp [chars, lexemes_listOf, Lexeme.spelling, Mark.text]

theorem IsElement.exists_marked (h : e.IsElement) :
    ∃ name isMarked, isName name ∧ e = (TypeRef.named (some name)).marked isMarked := by
  cases h with
  | named hname => exact ⟨_, false, hname, rfl⟩
  | nonNull hname => exact ⟨_, true, hname, rfl⟩

theorem lexemes_named (name : String) (isMarked : Bool) :
    ((TypeRef.named (some name)).marked isMarked).lexemes = .name name :: bangs isMarked :=
  lexemes_marked _ _

theorem chars_named (name : String) (isMarked : Bool) :
    ((TypeRef.named (some name)).marked isMarked).chars =
      name.toList ++ (bangs isMarked).flatMap Lexeme.spelling := by
  simp [chars, lexemes_named, Lexeme.spelling]

theorem isPlain_of_mem_lexemes : ∀ {t : TypeRef} {l : Lexeme}, l ∈ t.lexemes → l.isPlain
  | .named (some _), l, h => by
    obtain rfl := List.mem_singleton.mp h
    rfl
  | .named none, l, h => by cases h
  | .list e, l, h => by
    simp only [lexemes, List.mem_cons, List.mem_append, List.not_mem_nil, or_false] at h
    rcases h with rfl | h | rfl
    · rfl
    · exact isPlain_of_mem_lexemes h
    · rfl
  | .nonNull t, l, h => by
    simp only [lexemes, List.mem_append, List.mem_singleton] at h
    rcases h with h | rfl
    · exact isPlain_of_mem_lexemes h
    · rfl
  | .misnamed _, l, h | .tableNamed _, l, h | .other _, l, h => by cases h

theorem Written.lexemes_ne_nil (ht : t.Written) : t.lexemes ≠ [] := by
  cases ht <;> simp [lexemes]

theorem signature?_marked {text : String} (htext : t.signature? = some text) (hne : text ≠ "") :
    (t.marked isMarked).signature? =
      some (text ++ String.ofList ((bangs isMarked).flatMap Lexeme.spelling)) := by
  cases isMarked with
  | false => simpa [marked, bangs] using htext
  | true => simp [marked, bangs, signature?, htext, nonEmpty?, hne, Lexeme.spelling, Mark.text]

/-- The signature of a written reference is made of the characters of its names and marks. -/
theorem Written.signature?_eq (ht : t.Written) : t.signature? = some (String.ofList t.chars) := by
  refine ht.of_listOf (motive := fun t => t.signature? = some (String.ofList t.chars))
    (fun e he => ?_) fun e isMarked he ih => ?_
  · obtain ⟨name, isMarked, hname, rfl⟩ := he.exists_marked
    rw [signature?_marked rfl (ne_empty_of_isName hname), chars_named]
    simp
  · obtain ⟨text, htext, hne⟩ := he.signature?
    obtain rfl : text = String.ofList e.chars := Option.some.inj (htext.symm.trans ih)
    have hlist : (TypeRef.list e).signature? = some ("[" ++ String.ofList e.chars ++ "]") := by
      simp [TypeRef.signature?, htext, nonEmpty?, hne]
    change ((TypeRef.list e).marked isMarked).signature? = _
    rw [signature?_marked hlist (by simp), chars_listOf]
    simp [String.append_assoc]

theorem exists_tokensFrom_bangs (isMarked : Bool) (off : ℕ) (rest : List Char) :
    ∃ used, used.map Token.lexeme = bangs isMarked ∧
      tokensFrom off ((bangs isMarked).flatMap Lexeme.spelling ++ rest) =
        used ++ tokensFrom (off + ((bangs isMarked).flatMap Lexeme.spelling).length) rest := by
  cases isMarked with
  | false => exact ⟨[], rfl, rfl⟩
  | true =>
    have hscan : scan '!' rest = .token (.mark .bang) 0 := rfl
    exact ⟨[_], rfl, tokensFrom_mark hscan off⟩

theorem head?_bangs {isMarked : Bool} {rest : List Char} {c : Char}
    (hrest : ∀ c, rest.head? = some c → isNamePart c = false)
    (hc : ((bangs isMarked).flatMap Lexeme.spelling ++ rest).head? = some c) :
    isNamePart c = false := by
  cases isMarked with
  | false => exact hrest c hc
  | true =>
    obtain rfl : '!' = c := by simpa [bangs, Lexeme.spelling, Mark.text] using hc
    rfl

/-- The tokens that the lexer reads from the characters of a reference at some place of a text. The
opening brackets stand one behind the other. -/
structure Tokenized (t : TypeRef) (off : ℕ) (rest : List Char) (used : List Token) : Prop where
  lexemes_eq : used.map Token.lexeme = t.lexemes
  tokensFrom_eq : tokensFrom off (t.chars ++ rest) =
    used ++ tokensFrom (off + t.chars.length) rest
  start_eq : ∀ k ≤ t.listMarks.length, used[k]?.map Token.start = some (off + k)

theorem IsElement.exists_tokenized (he : e.IsElement) (off : ℕ) {rest : List Char}
    (hrest : ∀ c, rest.head? = some c → isNamePart c = false) :
    ∃ used, e.Tokenized off rest used := by
  obtain ⟨name, isMarked, hname, rfl⟩ := he.exists_marked
  obtain ⟨marks, hmarks, htokens⟩ :=
    exists_tokensFrom_bangs isMarked (off + name.toList.length) rest
  refine ⟨⟨.name name, off, off + name.toList.length⟩ :: marks, ?_, ?_, fun k hk => ?_⟩
  · rw [lexemes_named, List.map_cons, hmarks]
  · rw [chars_named, List.append_assoc, tokensFrom_name hname off fun c => head?_bangs hrest,
      htokens, List.length_append, Nat.add_assoc]
    rfl
  · rw [he.listMarks_eq] at hk
    obtain rfl : k = 0 := Nat.le_zero.mp hk
    rfl

theorem Tokenized.exists_listOf {off : ℕ} {rest : List Char} {inner : List Token}
    (h : e.Tokenized (off + 1) (']' :: ((bangs isMarked).flatMap Lexeme.spelling ++ rest)) inner) :
    ∃ used, (e.listOf isMarked).Tokenized off rest used := by
  obtain ⟨place, hplace⟩ : ∃ place, place = off + 1 + e.chars.length := ⟨_, rfl⟩
  obtain ⟨marks, hmarks, hbehind⟩ := exists_tokensFrom_bangs isMarked (place + 1) rest
  have hopen : ∀ s, scan '[' s = .token (.mark .openBracket) 0 := fun _ => rfl
  have hclose : ∀ s, scan ']' s = .token (.mark .closeBracket) 0 := fun _ => rfl
  refine ⟨⟨.mark .openBracket, off, off + 1⟩ ::
    (inner ++ ⟨.mark .closeBracket, place, place + 1⟩ :: marks), ?_, ?_, fun k hk => ?_⟩
  · rw [lexemes_listOf, List.map_cons, List.map_append, List.map_cons, h.lexemes_eq, hmarks]
  · have hlength : off + (e.listOf isMarked).chars.length =
        place + 1 + ((bangs isMarked).flatMap Lexeme.spelling).length := by
      simp only [chars_listOf, List.length_cons, List.length_append]
      omega
    rw [hlength, chars_listOf, List.cons_append, List.append_assoc, List.cons_append,
      tokensFrom_mark (hopen _), h.tokensFrom_eq, ← hplace, tokensFrom_mark (hclose _), hbehind]
    simp
  · rw [listMarks_listOf, List.length_append] at hk
    cases k with
    | zero => rfl
    | succ k =>
      have hstart := h.start_eq k (by simpa using hk)
      obtain ⟨t, ht, -⟩ := Option.map_eq_some_iff.mp hstart
      have hlt : k < inner.length := (List.getElem?_eq_some_iff.mp ht).1
      rw [List.getElem?_cons_succ, List.getElem?_append_left hlt, hstart, Nat.add_assoc,
        Nat.add_comm 1 k]

theorem Written.exists_tokenized (ht : t.Written) (off : ℕ) (rest : List Char)
    (hrest : ∀ c, rest.head? = some c → isNamePart c = false) :
    ∃ used, t.Tokenized off rest used := by
  refine ht.of_listOf (motive := fun t => ∀ off rest,
      (∀ c, rest.head? = some c → isNamePart c = false) → ∃ used, t.Tokenized off rest used)
    (fun e he off rest hrest => he.exists_tokenized off hrest)
    (fun e isMarked _ ih off rest _ => ?_) off rest hrest
  obtain ⟨inner, hinner⟩ := ih (off + 1)
    (']' :: ((bangs isMarked).flatMap Lexeme.spelling ++ rest)) (by simp; rfl)
  exact hinner.exists_listOf

open Parse

variable {ts rest used : List Token} {next : Token} {nested? : Option (Parse TypeRef)}

/-- What may stand behind a reference: the end of a list around it, or of the text. -/
def Ends (next : Token) : Prop := next.lexeme = .mark .closeBracket ∨ next.lexeme = .finish

theorem Ends.unbroken (h : Ends next) (f : LexicalFault) : next.lexeme ≠ .broken f := by
  rcases h with h | h <;> simp [h]

theorem Ends.ne_bang (h : Ends next) : next.lexeme ≠ .mark .bang := by
  rcases h with h | h <;> simp [h]

theorem suffixed_append {inner : TypeRef} (hused : used.map Token.lexeme = bangs isMarked)
    (hnext : Ends next) :
    suffixed inner (used ++ next :: rest) = .ok (inner.marked isMarked, next :: rest) := by
  unfold suffixed
  rw [skipMark_eq_takeIf]
  cases isMarked with
  | false =>
    obtain rfl : used = [] := List.map_eq_nil_iff.mp hused
    rw [List.nil_append, bind_of_eq_ok (takeIf_cons _ hnext.unbroken)]
    simp only [beq_eq_false_iff_ne.mpr hnext.ne_bang]
    rfl
  | true =>
    obtain ⟨mark, rfl, hmark⟩ := List.map_eq_singleton_iff.mp hused
    rw [List.singleton_append, bind_of_eq_ok (takeIf_cons _ (by simp [hmark]))]
    simp only [beq_iff_eq.mpr hmark]
    rfl

theorem suffixed_eq_ok {inner : TypeRef} (h : suffixed inner ts = .ok (t, rest)) :
    ∃ isMarked used, ts = used ++ rest ∧ used.map Token.lexeme = bangs isMarked ∧
      t = inner.marked isMarked := by
  obtain ⟨isMarked, mid, hskip, hpure⟩ := bind_eq_ok_iff.mp h
  have hmark := skipMark_eq_ok hskip
  cases isMarked with
  | false =>
    obtain ⟨rfl, rfl⟩ := pure_eq_ok_iff.mp hpure
    exact ⟨false, [], hmark.symm, rfl, rfl⟩
  | true =>
    obtain ⟨rfl, rfl⟩ := pure_eq_ok_iff.mp hpure
    obtain ⟨mark, hlexeme, rfl⟩ := hmark
    exact ⟨true, [mark], rfl, by simp [hlexeme, bangs], rfl⟩

theorem typeWithin_of_bracket {opening : Token} (h : opening.lexeme = .mark .openBracket) :
    typeWithin nested? (opening :: ts) = (elementWithin nested? >>= suffixed) ts := by
  unfold typeWithin
  rw [skipMark_eq_takeIf, bind_of_eq_ok (takeIf_cons _ (by simp [h]))]
  simp only [beq_iff_eq.mpr h]
  rfl

theorem typeWithin_of_name {first : Token} {name : String} (h : first.lexeme = .name name) :
    typeWithin nested? (first :: ts) = suffixed (.named (some name)) ts := by
  unfold typeWithin
  rw [skipMark_eq_takeIf, bind_of_eq_ok (takeIf_cons _ (by simp [h]))]
  simp only [h]
  exact bind_of_eq_ok (name_cons h)

theorem elementWithin_of_eq_ok {nested : Parse TypeRef} {closing : Token}
    (h : nested ts = .ok (e, closing :: rest)) (hclosing : closing.lexeme = .mark .closeBracket) :
    elementWithin (some nested) ts = .ok (.list e, rest) := by
  rw [elementWithin, bind_of_eq_ok h, bind_of_eq_ok (expectMark_cons hclosing)]
  rfl

/-- The element of a list between its brackets, and the mark behind them. -/
theorem exists_of_lexemes_listOf (h : used.map Token.lexeme = (e.listOf isMarked).lexemes) :
    ∃ opening inner closing marks, used = opening :: (inner ++ closing :: marks) ∧
      opening.lexeme = .mark .openBracket ∧ inner.map Token.lexeme = e.lexemes ∧
      closing.lexeme = .mark .closeBracket ∧ marks.map Token.lexeme = bangs isMarked := by
  rw [lexemes_listOf] at h
  obtain ⟨opening, behind, rfl, hopening, hbehind⟩ := List.map_eq_cons_iff.mp h
  obtain ⟨inner, after, rfl, hinner, hafter⟩ := List.map_eq_append_iff.mp hbehind
  obtain ⟨closing, marks, rfl, hclosing, hmarks⟩ := List.map_eq_cons_iff.mp hafter
  exact ⟨opening, inner, closing, marks, rfl, hopening, hinner, hclosing, hmarks⟩

/-- The names and marks of a written reference are parsed as this reference, wherever they stand, if
its lists are not too many. -/
theorem Written.typeRef_append (ht : t.Written) {room : ℕ} (hroom : t.listMarks.length ≤ room)
    (hused : used.map Token.lexeme = t.lexemes) (hnext : Ends next) :
    typeRef room (used ++ next :: rest) = .ok (t, next :: rest) := by
  refine ht.of_listOf (motive := fun t => ∀ room used next rest, t.listMarks.length ≤ room →
      used.map Token.lexeme = t.lexemes → Ends next →
        typeRef room (used ++ next :: rest) = .ok (t, next :: rest))
    (fun e he room used next rest _ hused hnext => ?_)
    (fun e isMarked _ ih room used next rest hroom hused hnext => ?_)
    room used next rest hroom hused hnext
  · obtain ⟨name, isMarked, -, rfl⟩ := he.exists_marked
    rw [lexemes_named] at hused
    obtain ⟨first, marks, rfl, hfirst, hmarks⟩ := List.map_eq_cons_iff.mp hused
    cases room with
    | zero => rw [List.cons_append, typeRef, typeWithin_of_name hfirst, suffixed_append hmarks hnext]
    | succ room =>
      rw [List.cons_append, typeRef, typeWithin_of_name hfirst, suffixed_append hmarks hnext]
  · obtain ⟨opening, inner, closing, marks, rfl, hopening, hinner, hclosing, hmarks⟩ :=
      exists_of_lexemes_listOf hused
    rw [listMarks_listOf, List.length_append] at hroom
    cases room with
    | zero => simp at hroom
    | succ room =>
      have helement := ih room inner closing (marks ++ next :: rest) (by simpa using hroom) hinner
        (.inl hclosing)
      rw [List.cons_append, List.append_assoc, List.cons_append, typeRef,
        typeWithin_of_bracket hopening, bind_of_eq_ok (elementWithin_of_eq_ok helement hclosing),
        suffixed_append hmarks hnext]
      rfl

/-- A reference with too many lists is refused behind the first bracket that is one too many. -/
theorem Written.typeRef_tooDeep (ht : t.Written) {room : ℕ} (hroom : room < t.listMarks.length)
    (hused : used.map Token.lexeme = t.lexemes) (rest : List Token) :
    ∃ place, used[room + 1]? = some place ∧
      typeRef room (used ++ rest) = .error (.tooDeep, place.start) := by
  refine ht.of_listOf (motive := fun t => ∀ room used rest, room < t.listMarks.length →
      used.map Token.lexeme = t.lexemes → ∃ place, used[room + 1]? = some place ∧
        typeRef room (used ++ rest) = .error (.tooDeep, place.start))
    (fun e he room used rest hroom _ => ?_)
    (fun e isMarked he ih room used rest hroom hused => ?_) room used rest hroom hused
  · rw [he.listMarks_eq] at hroom
    cases hroom
  · obtain ⟨opening, inner, closing, marks, rfl, hopening, hinner, -, -⟩ :=
      exists_of_lexemes_listOf hused
    rw [List.cons_append, List.append_assoc]
    cases room with
    | zero =>
      obtain ⟨place, tail, rfl⟩ : ∃ place tail, inner = place :: tail := by
        refine List.exists_cons_of_ne_nil fun hnil => he.lexemes_ne_nil ?_
        rw [← hinner, hnil, List.map_nil]
      have hplain : place.lexeme.isPlain :=
        isPlain_of_mem_lexemes (by rw [← hinner]; exact List.mem_cons_self)
      have hunbroken : ∀ f, place.lexeme ≠ .broken f := by
        intro f hf
        rw [hf] at hplain
        cases hplain
      refine ⟨place, rfl, ?_⟩
      rw [typeRef, typeWithin_of_bracket hopening]
      refine bind_of_eq_error ?_
      rw [elementWithin, List.cons_append, bind_of_eq_ok (current_cons hunbroken)]
      rfl
    | succ room =>
      rw [listMarks_listOf, List.length_append] at hroom
      obtain ⟨place, hplace, herror⟩ := ih room inner (closing :: marks ++ rest)
        (by simpa using hroom) hinner
      have hlt : room + 1 < inner.length := (List.getElem?_eq_some_iff.mp hplace).1
      refine ⟨place, ?_, ?_⟩
      · rw [List.getElem?_cons_succ, List.getElem?_append_left hlt, hplace]
      · rw [typeRef, typeWithin_of_bracket hopening]
        exact bind_of_eq_error (bind_of_eq_error herror)

/-- The tokens that a reference was parsed from, with so much room for lists. -/
structure ParsedFrom (room : ℕ) (t : TypeRef) (used : List Token) : Prop where
  lexemes_eq : used.map Token.lexeme = t.lexemes
  length_le : t.listMarks.length ≤ room
  written : (∀ u ∈ used, ∀ name, u.lexeme = .name name → isName name) → t.Written

theorem parsedFrom_named {room : ℕ} {first : Token} {name : String} {marks : List Token}
    (hfirst : first.lexeme = .name name) (hmarks : marks.map Token.lexeme = bangs isMarked) :
    ParsedFrom room ((TypeRef.named (some name)).marked isMarked) (first :: marks) := by
  refine ⟨by simp [lexemes_named, hfirst, hmarks], ?_, fun hnames => ?_⟩
  · cases isMarked <;> simp [marked, listMarks]
  · have hname := hnames first List.mem_cons_self name hfirst
    cases isMarked with
    | false => exact .named hname
    | true => exact .nonNullNamed hname

theorem ParsedFrom.listOf {room : ℕ} {opening closing : Token} {marks : List Token}
    (h : ParsedFrom room e used) (hopening : opening.lexeme = .mark .openBracket)
    (hclosing : closing.lexeme = .mark .closeBracket)
    (hmarks : marks.map Token.lexeme = bangs isMarked) :
    ParsedFrom (room + 1) (e.listOf isMarked) (opening :: (used ++ closing :: marks)) := by
  refine ⟨?_, ?_, fun hnames => ?_⟩
  · simp [lexemes_listOf, hopening, h.lexemes_eq, hclosing, hmarks]
  · rw [listMarks_listOf, List.length_append]
    exact Nat.succ_le_succ h.length_le
  · have he := h.written fun u hu => hnames u (by simp [hu])
    cases isMarked with
    | false => exact .list he
    | true => exact .nonNullList he

theorem elementWithin_eq_ok (h : elementWithin nested? ts = .ok (t, rest)) :
    ∃ nested e closing, nested? = some nested ∧ nested ts = .ok (e, closing :: rest) ∧
      closing.lexeme = .mark .closeBracket ∧ t = .list e := by
  cases nested? with
  | none =>
    obtain ⟨place, _, -, hfail⟩ := bind_eq_ok_iff.mp h
    cases hfail
  | some nested =>
    obtain ⟨e, after, he, hclose⟩ := bind_eq_ok_iff.mp h
    obtain ⟨⟨⟩, last, hexpect, hpure⟩ := bind_eq_ok_iff.mp hclose
    obtain ⟨rfl, rfl⟩ := pure_eq_ok_iff.mp hpure
    obtain ⟨closing, hclosing, rfl⟩ := expectMark_eq_ok hexpect
    exact ⟨nested, e, closing, rfl, he, hclosing, rfl⟩

/-- A reference is a name or a list, with or without a mark. -/
theorem typeWithin_eq_ok (h : typeWithin nested? ts = .ok (t, rest)) :
    ∃ isMarked marks, marks.map Token.lexeme = bangs isMarked ∧
      ((∃ name first, first.lexeme = .name name ∧ ts = first :: (marks ++ rest) ∧
        t = (TypeRef.named (some name)).marked isMarked) ∨
      ∃ nested e opening behind closing, opening.lexeme = .mark .openBracket ∧
        nested? = some nested ∧ nested behind = .ok (e, closing :: (marks ++ rest)) ∧
        closing.lexeme = .mark .closeBracket ∧ ts = opening :: behind ∧
        t = e.listOf isMarked) := by
  obtain ⟨isList, mid, hskip, hbehind⟩ := bind_eq_ok_iff.mp h
  have hopening := skipMark_eq_ok hskip
  cases isList with
  | false =>
    obtain ⟨name, behind, hname, hsuffix⟩ := bind_eq_ok_iff.mp hbehind
    obtain ⟨first, hfirst, rfl⟩ := name_eq_ok hname
    obtain ⟨isMarked, marks, rfl, hmarks, rfl⟩ := suffixed_eq_ok hsuffix
    exact ⟨isMarked, marks, hmarks, .inl ⟨name, first, hfirst, hopening.symm, rfl⟩⟩
  | true =>
    obtain ⟨opening, hbracket, rfl⟩ := hopening
    obtain ⟨inner, behind, hinner, hsuffix⟩ := bind_eq_ok_iff.mp hbehind
    obtain ⟨isMarked, marks, rfl, hmarks, rfl⟩ := suffixed_eq_ok hsuffix
    obtain ⟨nested, e, closing, hnested, he, hclosing, rfl⟩ := elementWithin_eq_ok hinner
    exact ⟨isMarked, marks, hmarks,
      .inr ⟨nested, e, opening, mid, closing, hbracket, hnested, he, hclosing, rfl, rfl⟩⟩

theorem exists_parsedFrom {room : ℕ} (h : typeRef room ts = .ok (t, rest)) :
    ∃ used, ts = used ++ rest ∧ ParsedFrom room t used := by
  induction room generalizing ts t rest with
  | zero =>
    obtain ⟨isMarked, marks, hmarks, ⟨name, first, hfirst, rfl, rfl⟩ |
      ⟨nested, e, opening, behind, closing, -, hnested, -⟩⟩ := typeWithin_eq_ok h
    · exact ⟨_, rfl, parsedFrom_named hfirst hmarks⟩
    · cases hnested
  | succ room ih =>
    obtain ⟨isMarked, marks, hmarks, ⟨name, first, hfirst, rfl, rfl⟩ |
      ⟨nested, e, opening, behind, closing, hopening, hnested, he, hclosing, rfl, rfl⟩⟩ :=
      typeWithin_eq_ok h
    · exact ⟨_, rfl, parsedFrom_named hfirst hmarks⟩
    · obtain rfl : typeRef room = nested := Option.some.inj hnested
      obtain ⟨used, rfl, hused⟩ := ih he
      exact ⟨opening :: (used ++ closing :: marks), by simp, hused.listOf hopening hclosing hmarks⟩

theorem wholeType_of_eq_ok (h : Parse.type ts = .ok (t, [next])) (hnext : next.lexeme = .finish) :
    wholeType ts = .ok (t, [next]) := by
  rw [wholeType, bind_of_eq_ok h, bind_of_eq_ok (current_cons (by simp [hnext]))]
  simp only [hnext]
  rfl

theorem wholeType_eq_ok (h : wholeType ts = .ok (t, rest)) :
    Parse.type ts = .ok (t, rest) ∧ nextLexeme rest = .finish := by
  obtain ⟨t', mid, htype, hbehind⟩ := bind_eq_ok_iff.mp h
  obtain ⟨next, mid', hnext, hend⟩ := bind_eq_ok_iff.mp hbehind
  obtain ⟨rfl, hlexeme, -⟩ := current_eq_ok hnext
  by_cases hfinish : next.lexeme = .finish
  · rw [beq_iff_eq.mpr hfinish, if_pos rfl] at hend
    obtain ⟨rfl, rfl⟩ := pure_eq_ok_iff.mp hend
    exact ⟨htype, hlexeme ▸ hfinish⟩
  · rw [beq_eq_false_iff_ne.mpr hfinish, if_neg (by simp)] at hend
    cases hend

theorem Written.tokens_eq (ht : t.Written) :
    ∃ used next, tokens (String.ofList t.chars) = used ++ [next] ∧ next.lexeme = .finish ∧
      used.map Token.lexeme = t.lexemes ∧
      ∀ k ≤ t.listMarks.length, used[k]?.map Token.start = some k := by
  obtain ⟨used, hused⟩ := ht.exists_tokenized 0 [] (by simp)
  refine ⟨used, ⟨.finish, t.chars.length, t.chars.length⟩, ?_, rfl, hused.lexemes_eq, fun k hk => ?_⟩
  · have htokens := hused.tokensFrom_eq
    rw [List.append_nil, Nat.zero_add, tokensFrom] at htokens
    rw [tokens, String.toList_ofList, htokens]
  · rw [hused.start_eq k hk, Nat.zero_add]

/-- A text of the names and marks of a reference is parsed as this reference. -/
theorem Written.parse_of_lexemes (ht : t.Written) (hroom : t.listMarks.length ≤ levelLimit)
    {text : String} (h : (tokens text).map Token.lexeme = t.lexemes ++ [.finish]) :
    TypeRef.parse text = .ok t := by
  obtain ⟨used, behind, htokens, hused, hbehind⟩ := List.map_eq_append_iff.mp h
  obtain ⟨next, rfl, hnext⟩ := List.map_eq_singleton_iff.mp hbehind
  refine run_eq_ok_iff.mpr ⟨[next], ?_⟩
  rw [htokens]
  exact wholeType_of_eq_ok (ht.typeRef_append hroom hused (.inr hnext)) hnext

/-- The text of a reference is parsed as the reference, unless it has more lists than levels may be
open. -/
theorem Written.parse_chars (ht : t.Written) :
    TypeRef.parse (String.ofList t.chars) =
      if t.listMarks.length ≤ levelLimit then .ok t
      else .error ⟨.tooDeep, levelLimit + 1, String.ofList t.chars⟩ := by
  obtain ⟨used, next, htokens, hnext, hused, hstart⟩ := ht.tokens_eq
  by_cases hroom : t.listMarks.length ≤ levelLimit
  · rw [if_pos hroom]
    refine ht.parse_of_lexemes hroom ?_
    rw [htokens, List.map_append, hused, List.map_singleton, hnext]
  · rw [if_neg hroom]
    rw [Nat.not_le] at hroom
    obtain ⟨place, hplace, herror⟩ := ht.typeRef_tooDeep hroom hused [next]
    have hoffset : place.start = levelLimit + 1 := by
      have h := hstart (levelLimit + 1) hroom
      rw [hplace] at h
      exact Option.some.inj h
    have hwhole : wholeType (tokens (String.ofList t.chars)) =
        .error (.tooDeep, levelLimit + 1) := by
      rw [htokens, ← hoffset]
      exact bind_of_eq_error herror
    rw [TypeRef.parse, run, hwhole]

/-- What has the same text is the same reference. -/
theorem Written.eq_of_chars_eq {t' : TypeRef} (ht : t.Written) (ht' : t'.Written)
    (h : t.chars = t'.chars) : t = t' := by
  obtain ⟨used, next, htokens, hnext, hused, -⟩ := ht.tokens_eq
  obtain ⟨used', next', htokens', -, hused', -⟩ := ht'.tokens_eq
  rw [h, htokens'] at htokens
  obtain ⟨rfl, hlast⟩ := List.append_inj' htokens rfl
  obtain rfl := List.singleton_inj.mp hlast
  have hleft : typeRef (t.listMarks.length + t'.listMarks.length) (used' ++ [next']) =
      .ok (t, [next']) := ht.typeRef_append (Nat.le_add_right _ _) hused (.inr hnext)
  have hright : typeRef (t.listMarks.length + t'.listMarks.length) (used' ++ [next']) =
      .ok (t', [next']) := ht'.typeRef_append (Nat.le_add_left _ _) hused' (.inr hnext)
  exact congrArg Prod.fst (Except.ok.inj (hleft.symm.trans hright))

/-- A text that is parsed is that of the reference with ignored characters in between. -/
theorem exists_of_parse {text : String} (h : TypeRef.parse text = .ok t) :
    t.Written ∧ t.listMarks.length ≤ levelLimit ∧ String.ofList t.chars = significant text := by
  obtain ⟨rest, hwhole⟩ := run_eq_ok_iff.mp h
  obtain ⟨htype, hend⟩ := wholeType_eq_ok hwhole
  obtain ⟨used, htokens, hused⟩ := exists_parsedFrom htype
  have hwritten : t.Written := by
    refine hused.written fun u hu name hname => ?_
    have hmem : u ∈ tokens text := by
      rw [htokens]
      exact List.mem_append_left rest hu
    exact isName_of_tokensFrom hmem hname
  refine ⟨hwritten, hused.length_le, ?_⟩
  have hplain : ∀ u ∈ used, u.lexeme.isPlain := by
    intro u hu
    refine isPlain_of_mem_lexemes (t := t) ?_
    rw [← hused.lexemes_eq]
    exact List.mem_map_of_mem hu
  rw [significant, significantFrom_of_tokensFrom htokens hplain hend, hused.lexemes_eq, chars]

end TypeRef

end OperationClasses
