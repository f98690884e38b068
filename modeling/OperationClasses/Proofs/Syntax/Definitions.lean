import OperationClasses.Proofs.Syntax.Leftovers

/-!
# Definitions of a document

An executable definition is told by its first tokens and read by the step of its kind. A document
is its definitions one behind the other, and each keeps the place of its tokens.
-/
namespace OperationClasses.Syntax.Parse

variable {α β : Type}

theorem bind_pure_eq_ok_iff {p : Parse α} {g : α → β} {ts rest : List Token} {y : β} :
    (p >>= fun x => pure (g x)) ts = .ok (y, rest) ↔ ∃ x, p ts = .ok (x, rest) ∧ g x = y := by
  rw [bind_eq_ok_iff]
  constructor
  · rintro ⟨x, mid, hp, hpure⟩
    obtain ⟨hy, rfl⟩ := pure_eq_ok_iff.mp hpure
    exact ⟨x, hp, hy⟩
  · rintro ⟨x, hp, rfl⟩
    exact ⟨x, rest, hp, rfl⟩

theorem bind_of_eq_ok {p : Parse α} {f : α → Parse β} {ts mid : List Token} {x : α}
    (h : p ts = .ok (x, mid)) : (p >>= f) ts = f x mid := by
  change (p ts >>= fun r => f r.1 r.2) = _
  rw [h]
  rfl

theorem bind_of_eq_error {p : Parse α} {f : α → Parse β} {ts : List Token} {fault : Fault}
    (h : p ts = .error fault) : (p >>= f) ts = .error fault := by
  change (p ts >>= fun r => f r.1 r.2) = _
  rw [h]
  rfl

theorem sound_eq_ok {t : Token} {ts : List Token} (h : ∀ f, t.lexeme ≠ .broken f) :
    sound t ts = .ok (t, ts) := by
  rw [sound_of_unbroken h]
  rfl

theorem current_cons {t : Token} {ts : List Token} (h : ∀ f, t.lexeme ≠ .broken f) :
    current (t :: ts) = .ok (t, t :: ts) := sound_eq_ok h

theorem sound_fst {t t' : Token} {ts rest : List Token} (h : sound t ts = .ok (t', rest)) :
    rest = ts := by
  unfold sound at h
  cases hlex : t.lexeme with
  | broken f =>
    rw [hlex] at h
    cases h
  | _ =>
    rw [hlex] at h
    exact (pure_eq_ok_iff.mp h).2.symm

theorem second_eq_ok {ts rest : List Token} {t : Token} (h : second ts = .ok (t, rest)) :
    rest = ts := by
  match ts, h with
  | [], h => exact (pure_eq_ok_iff.mp h).2.symm
  | [a], h => exact sound_fst h
  | a :: b :: ts, h => exact sound_fst h

theorem description_eq_ok {ts rest : List Token} {about : Option Description}
    (h : description ts = .ok (about, rest)) :
    (about = none ∧ rest = ts) ∨
      about.isSome ∧ rest = ts.tail ∧ ∃ s, nextLexeme ts = .string s ∨ nextLexeme ts = .block s := by
  obtain ⟨t, mid, ht, hrest⟩ := bind_eq_ok_iff.mp h
  obtain ⟨rfl, hlexeme, -⟩ := current_eq_ok ht
  rw [← hlexeme]
  cases hlex : t.lexeme with
  | string s =>
    rw [hlex] at hrest
    obtain ⟨⟨⟩, after, hadvance, hpure⟩ := bind_eq_ok_iff.mp hrest
    obtain ⟨rfl, rfl⟩ := pure_eq_ok_iff.mp hpure
    cases hadvance
    exact .inr ⟨rfl, rfl, s, .inl rfl⟩
  | block s =>
    rw [hlex] at hrest
    obtain ⟨⟨⟩, after, hadvance, hpure⟩ := bind_eq_ok_iff.mp hrest
    obtain ⟨rfl, rfl⟩ := pure_eq_ok_iff.mp hpure
    cases hadvance
    exact .inr ⟨rfl, rfl, s, .inr rfl⟩
  | _ =>
    rw [hlex] at hrest
    obtain ⟨rfl, rfl⟩ := pure_eq_ok_iff.mp hrest
    exact .inl ⟨rfl, rfl⟩

theorem operationKind_eq_ok {ts rest : List Token} {kind : OperationKind}
    (h : operationKind ts = .ok (kind, rest)) :
    ∃ word, nextLexeme ts = .name word ∧ OperationKind.ofText? word = some kind := by
  obtain ⟨t, mid, ht, hrest⟩ := bind_eq_ok_iff.mp h
  obtain ⟨rfl, hlexeme, -⟩ := current_eq_ok ht
  rw [← hlexeme]
  cases hlex : t.lexeme with
  | name word =>
    refine ⟨word, rfl, ?_⟩
    rw [hlex] at hrest
    cases hkind : OperationKind.ofText? word with
    | none =>
      simp only [hkind] at hrest
      cases hrest
    | some k =>
      simp only [hkind] at hrest
      obtain ⟨x, -, hk⟩ := bind_pure_eq_ok_iff.mp hrest
      exact congrArg some hk
  | _ =>
    rw [hlex] at hrest
    cases hrest

theorem expectKeyword_eq_ok {word : String} {ts rest : List Token}
    (h : expectKeyword word ts = .ok ((), rest)) : nextLexeme ts = .name word := by
  obtain ⟨t, mid, ht, hrest⟩ := bind_eq_ok_iff.mp h
  obtain ⟨rfl, hlexeme, -⟩ := current_eq_ok ht
  by_cases hword : t.lexeme = .name word
  · rw [← hlexeme, hword]
  · rw [beq_eq_false_iff_ne.mpr hword, if_neg (by simp)] at hrest
    cases hrest

/-- A definition is told by the word behind its description. -/
theorem definition_of_keyword {ts mid : List Token} {about : Option Description} {word : String}
    (h : description ts = .ok (about, mid)) (hword : nextLexeme mid = .name word) :
    ∃ first place, definition ts = definitionOf about.isSome first place word ts := by
  rcases description_eq_ok h with ⟨rfl, rfl⟩ | ⟨habout, rfl, s, hs⟩
  · have hunbroken : ∀ f, nextLexeme mid ≠ .broken f := by simp [hword]
    obtain ⟨t, ht, hlexeme⟩ := exists_current hunbroken
    refine ⟨t, t, ?_⟩
    unfold definition
    rw [bind_of_eq_ok ht, hlexeme, hword]
    rfl
  · have hfinish : nextLexeme ts ≠ .finish := by rcases hs with hs | hs <;> simp [hs]
    obtain ⟨t, hts, ht⟩ := exists_of_nextLexeme hfinish
    have hfinish' : nextLexeme ts.tail ≠ .finish := by simp [hword]
    obtain ⟨t', hts', ht'⟩ := exists_of_nextLexeme hfinish'
    have hcurrent : current ts = .ok (t, ts) := by
      rw [hts]
      exact sound_eq_ok (by rcases hs with hs | hs <;> simp [ht, hs])
    have hsecond : second ts = .ok (t', ts) := by
      rw [hts, hts']
      exact sound_eq_ok (by simp [ht', hword])
    refine ⟨t, t', ?_⟩
    unfold definition
    rw [bind_of_eq_ok hcurrent, ht, habout]
    rcases hs with hs | hs
    · rw [hs]
      change (second >>= _) ts = _
      rw [bind_of_eq_ok hsecond, ht', hword]
    · rw [hs]
      change (second >>= _) ts = _
      rw [bind_of_eq_ok hsecond, ht', hword]

theorem definitionOf_of_ofText? {word : String} {kind : OperationKind}
    (h : OperationKind.ofText? word = some kind) (described : Bool) (first place : Token) :
    definitionOf described first place word = operation >>= fun o => pure (.operation o) := by
  unfold OperationKind.ofText? at h
  split at h
  · simp [definitionOf, typeKind?, OperationKind.ofText?]
  · simp [definitionOf, typeKind?, OperationKind.ofText?]
  · simp [definitionOf, typeKind?, OperationKind.ofText?]
  · cases h

theorem definitionOf_fragment (described : Bool) (first place : Token) :
    definitionOf described first place "fragment" = fragment >>= fun f => pure (.fragment f) := by
  simp [definitionOf, typeKind?, OperationKind.ofText?]

theorem definition_of_operation {ts rest : List Token} {o : Operation}
    (h : operation ts = .ok (o, rest)) : definition ts = .ok (.operation o, rest) := by
  obtain ⟨b, mid, hb, hbehind⟩ := bind_eq_ok_iff.mp h
  obtain ⟨rfl, hshort⟩ := look_eq_ok (isNext_eq_look .openBrace ▸ hb)
  cases b with
  | true =>
    have hnext : nextLexeme mid = .mark .openBrace := by simpa using hshort.symm
    have hunbroken : ∀ f, nextLexeme mid ≠ .broken f := by simp [hnext]
    obtain ⟨t, ht, hlexeme⟩ := exists_current hunbroken
    unfold definition
    rw [bind_of_eq_ok ht, hlexeme, hnext]
    exact bind_pure_eq_ok_iff.mpr ⟨o, h, rfl⟩
  | false =>
    obtain ⟨about, after, habout, hkind⟩ := bind_eq_ok_iff.mp hbehind
    obtain ⟨kind, after', hkind, -⟩ := bind_eq_ok_iff.mp hkind
    obtain ⟨word, hword, hof⟩ := operationKind_eq_ok hkind
    obtain ⟨first, place, hdefinition⟩ := definition_of_keyword habout hword
    rw [hdefinition, definitionOf_of_ofText? hof]
    exact bind_pure_eq_ok_iff.mpr ⟨o, h, rfl⟩

theorem definition_of_fragment {ts rest : List Token} {f : Fragment}
    (h : fragment ts = .ok (f, rest)) : definition ts = .ok (.fragment f, rest) := by
  obtain ⟨about, mid, habout, hkeyword⟩ := bind_eq_ok_iff.mp h
  obtain ⟨⟨⟩, after, hword, -⟩ := bind_eq_ok_iff.mp hkeyword
  obtain ⟨first, place, hdefinition⟩ := definition_of_keyword habout (expectKeyword_eq_ok hword)
  rw [hdefinition, definitionOf_fragment]
  exact bind_pure_eq_ok_iff.mpr ⟨f, h, rfl⟩

/-- What a definition with a keyword is. -/
theorem definitionOf_eq_ok {described : Bool} {first place : Token} {word : String}
    {ts rest : List Token} {d : Definition}
    (h : definitionOf described first place word ts = .ok (d, rest)) :
    (∃ o, d = .operation o ∧ operation ts = .ok (o, rest)) ∨
      (∃ f, d = .fragment f ∧ fragment ts = .ok (f, rest)) ∨ d.isExecutable = false := by
  unfold definitionOf at h
  by_cases hschema : (word == "schema") = true
  · rw [if_pos hschema] at h
    obtain ⟨x, -, rfl⟩ := bind_pure_eq_ok_iff.mp h
    exact .inr (.inr rfl)
  rw [if_neg hschema] at h
  by_cases hdirective : (word == "directive") = true
  · rw [if_pos hdirective] at h
    obtain ⟨x, -, rfl⟩ := bind_pure_eq_ok_iff.mp h
    exact .inr (.inr rfl)
  rw [if_neg hdirective] at h
  cases hkind : typeKind? word with
  | some kind =>
    rw [hkind] at h
    obtain ⟨x, -, rfl⟩ := bind_pure_eq_ok_iff.mp h
    exact .inr (.inr rfl)
  | none =>
    rw [hkind] at h
    dsimp only at h
    by_cases hoperation : (OperationKind.ofText? word).isSome = true
    · rw [if_pos hoperation] at h
      obtain ⟨o, ho, rfl⟩ := bind_pure_eq_ok_iff.mp h
      exact .inl ⟨o, rfl, ho⟩
    rw [if_neg hoperation] at h
    by_cases hfragment : (word == "fragment") = true
    · rw [if_pos hfragment] at h
      obtain ⟨f, hf, rfl⟩ := bind_pure_eq_ok_iff.mp h
      exact .inr (.inl ⟨f, rfl, hf⟩)
    rw [if_neg hfragment] at h
    cases described with
    | true => cases h
    | false =>
      rw [if_neg (by simp)] at h
      by_cases hextend : (word == "extend") = true
      · rw [if_pos hextend] at h
        obtain ⟨x, -, rfl⟩ := bind_pure_eq_ok_iff.mp h
        exact .inr (.inr rfl)
      · rw [if_neg hextend] at h
        cases h

/-- A definition behind a description, which the second token tells. -/
def describedDefinition (first : Token) : Parse Definition := do
  let keyword ← second
  match keyword.lexeme with
  | .mark .openBrace => fail .describedShorthand first
  | .name word => definitionOf true first keyword word
  | _ => unexpected keyword

theorem describedDefinition_eq_ok {first : Token} {ts rest : List Token} {d : Definition}
    (h : describedDefinition first ts = .ok (d, rest)) :
    (∃ o, d = .operation o ∧ operation ts = .ok (o, rest)) ∨
      (∃ f, d = .fragment f ∧ fragment ts = .ok (f, rest)) ∨ d.isExecutable = false := by
  obtain ⟨keyword, after, hkeyword, hbehind⟩ := bind_eq_ok_iff.mp h
  obtain rfl := second_eq_ok hkeyword
  cases hlex : keyword.lexeme with
  | name word =>
    rw [hlex] at hbehind
    exact definitionOf_eq_ok hbehind
  | mark m =>
    rw [hlex] at hbehind
    cases m <;> cases hbehind
  | _ =>
    rw [hlex] at hbehind
    cases hbehind

/-- An executable definition is read by the step of its kind. -/
theorem definition_eq_ok {ts rest : List Token} {d : Definition}
    (h : definition ts = .ok (d, rest)) :
    (∃ o, d = .operation o ∧ operation ts = .ok (o, rest)) ∨
      (∃ f, d = .fragment f ∧ fragment ts = .ok (f, rest)) ∨ d.isExecutable = false := by
  obtain ⟨first, mid, hfirst, hbehind⟩ := bind_eq_ok_iff.mp h
  obtain ⟨rfl, -, -⟩ := current_eq_ok hfirst
  cases hlex : first.lexeme with
  | mark m =>
    rw [hlex] at hbehind
    cases m with
    | openBrace =>
      obtain ⟨o, ho, rfl⟩ := bind_pure_eq_ok_iff.mp hbehind
      exact .inl ⟨o, rfl, ho⟩
    | _ => cases hbehind
  | name word =>
    rw [hlex] at hbehind
    exact definitionOf_eq_ok hbehind
  | string s =>
    rw [hlex] at hbehind
    exact describedDefinition_eq_ok hbehind
  | block s =>
    rw [hlex] at hbehind
    exact describedDefinition_eq_ok hbehind
  | _ =>
    rw [hlex] at hbehind
    cases hbehind

theorem operation_of_definition {ts rest : List Token} {o : Operation}
    (h : definition ts = .ok (.operation o, rest)) : operation ts = .ok (o, rest) := by
  rcases definition_eq_ok h with ⟨o', heq, ho⟩ | ⟨f, heq, -⟩ | hexecutable
  · cases heq
    exact ho
  · cases heq
  · cases hexecutable

theorem kind_of_operationBehind {about : Option Description} {kind : OperationKind}
    {label : Option String} {ts rest : List Token} {o : Operation}
    (h : operationBehind about kind label ts = .ok (o, rest)) : o.kind = .parsed kind := by
  obtain ⟨limit, afterBound, -, hvariables⟩ := bind_eq_ok_iff.mp h
  obtain ⟨vs, afterVariables, -, hdirectives⟩ := bind_eq_ok_iff.mp hvariables
  obtain ⟨ds, afterDirectives, -, hselections⟩ := bind_eq_ok_iff.mp hdirectives
  obtain ⟨selections, -, rfl⟩ := bind_pure_eq_ok_iff.mp hselections
  rfl

/-- The kind of an operation that was read is one of the three. -/
theorem kind_of_operation {ts rest : List Token} {o : Operation}
    (h : operation ts = .ok (o, rest)) : ∃ kind, o.kind = .parsed kind := by
  obtain ⟨short, mid, -, hbehind⟩ := bind_eq_ok_iff.mp h
  cases short with
  | true =>
    obtain ⟨selections, -, rfl⟩ := bind_pure_eq_ok_iff.mp hbehind
    exact ⟨.query, rfl⟩
  | false =>
    obtain ⟨about, afterAbout, -, hkind⟩ := bind_eq_ok_iff.mp hbehind
    obtain ⟨kind, afterKind, -, hnamed⟩ := bind_eq_ok_iff.mp hkind
    obtain ⟨named, afterNamed, -, hlabel⟩ := bind_eq_ok_iff.mp hnamed
    refine ⟨kind, ?_⟩
    cases named with
    | true =>
      obtain ⟨label, afterLabel, -, hread⟩ := bind_eq_ok_iff.mp hlabel
      exact kind_of_operationBehind hread
    | false =>
      have hread : operationBehind about kind none afterNamed = .ok (o, rest) := hlabel
      exact kind_of_operationBehind hread

/-- Where the first of some tokens begins. -/
def startOf (ts : List Token) : ℕ := (ts.head?.map Token.start).getD 0

/-- Where the last of some tokens ends. -/
def stopOf (ts : List Token) : ℕ := (ts.getLast?.map Token.stop).getD 0

theorem spanned_append {step : Parse α} {used rest : List Token} {x : α}
    (h : step (used ++ rest) = .ok (x, rest)) :
    spanned step (used ++ rest) = .ok ((x, startOf used, stopOf used), rest) := by
  unfold spanned
  have hget : (get : Parse (List Token)) (used ++ rest) = .ok (used ++ rest, used ++ rest) := rfl
  have hget' : (get : Parse (List Token)) rest = .ok (rest, rest) := rfl
  rw [bind_of_eq_ok hget, bind_of_eq_ok h, bind_of_eq_ok hget']
  simp only [List.length_append, Nat.add_sub_cancel, List.take_left]
  rfl

theorem exists_of_spanned {step : Parse α} (hstep : Shrinks step) {ts rest : List Token}
    {y : α × ℕ × ℕ} (h : spanned step ts = .ok (y, rest)) :
    ∃ used x, ts = used ++ rest ∧ step ts = .ok (x, rest) ∧ y = (x, startOf used, stopOf used) := by
  obtain ⟨before, mid, hbefore, h₁⟩ := bind_eq_ok_iff.mp h
  cases hbefore
  obtain ⟨x, after, hx, h₂⟩ := bind_eq_ok_iff.mp h₁
  obtain ⟨after', mid, hafter, h₃⟩ := bind_eq_ok_iff.mp h₂
  cases hafter
  obtain ⟨-, rfl⟩ := pure_eq_ok_iff.mp h₃
  obtain ⟨used, rfl⟩ := hstep ts x _ hx
  rw [spanned_append hx] at h
  cases h
  exact ⟨used, x, rfl, hx, rfl⟩

/-- Each definition of a document was read from some of its tokens and knows their place. -/
theorem mem_of_definitions {n : ℕ} {ts rest : List Token} {ds : List (Definition × ℕ × ℕ)}
    (h : definitions n ts = .ok (ds, rest)) {y : Definition × ℕ × ℕ} (hy : y ∈ ds) :
    ∃ front used behind d, ts = front ++ used ++ behind ∧
      definition (used ++ behind) = .ok (d, behind) ∧ y = (d, startOf used, stopOf used) := by
  induction n generalizing ts ds with
  | zero =>
    obtain ⟨t, mid, -, hrest⟩ := bind_eq_ok_iff.mp h
    cases hrest
  | succ n ih =>
    obtain ⟨first, mid, hfirst, hmore⟩ := bind_eq_ok_iff.mp h
    obtain ⟨used, d, rfl, hd, rfl⟩ := exists_of_spanned shrinks_definition hfirst
    obtain ⟨t, mid', ht, hothers⟩ := bind_eq_ok_iff.mp hmore
    obtain ⟨rfl, -, -⟩ := current_eq_ok ht
    by_cases hfinish : (t.lexeme == .finish) = true
    · rw [if_pos hfinish] at hothers
      obtain ⟨rfl, rfl⟩ := pure_eq_ok_iff.mp hothers
      obtain rfl := List.mem_singleton.mp hy
      exact ⟨[], used, _, d, rfl, hd, rfl⟩
    · rw [if_neg hfinish] at hothers
      obtain ⟨others, hread, rfl⟩ := bind_pure_eq_ok_iff.mp hothers
      rcases List.mem_cons.mp hy with rfl | hy
      · exact ⟨[], used, _, d, rfl, hd, rfl⟩
      · obtain ⟨front, used', behind, d', rfl, hd', rfl⟩ := ih hread hy
        exact ⟨used ++ front, used', behind, d', by simp, hd', rfl⟩

/-- A definition does not begin where the text ends or breaks off. -/
theorem nextLexeme_of_definition {ts rest : List Token} {d : Definition}
    (h : definition ts = .ok (d, rest)) :
    nextLexeme ts ≠ .finish ∧ ∀ f, nextLexeme ts ≠ .broken f := by
  obtain ⟨first, mid, hfirst, hbehind⟩ := bind_eq_ok_iff.mp h
  obtain ⟨rfl, hlexeme, hunbroken⟩ := current_eq_ok hfirst
  refine ⟨fun hfinish => ?_, hunbroken⟩
  rw [hlexeme, hfinish] at hbehind
  cases hbehind

end OperationClasses.Syntax.Parse
