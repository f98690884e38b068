import OperationClasses.Proofs.Syntax.Grammar

/-!
# What parsing leaves

Steps only ever move forward: what they leave are the last of the tokens they were given. The
steps of the executable grammar that end with a selection set end with its closing brace.
-/
namespace OperationClasses.Syntax.Parse

variable {α β γ : Type}

/-- What the step leaves are the last of its tokens. -/
def Shrinks (p : Parse α) : Prop := ∀ ts x rest, p ts = .ok (x, rest) → rest <:+ ts

theorem Reads.shrinks {e : Extent} {view : α → γ} {p : Parse α} (h : Reads e view p) :
    Shrinks p := by
  intro ts x rest hp
  obtain ⟨used, hts, -⟩ := h 0 0 _ ts x rest rfl hp
  exact ⟨used, hts.symm⟩

theorem Shrinks.pure (x : α) : Shrinks (Pure.pure x) := by
  intro ts y rest hp
  obtain ⟨-, rfl⟩ := pure_eq_ok_iff.mp hp
  exact List.suffix_refl ts

theorem Shrinks.fail (cause : SyntaxCause) (place : Token) :
    Shrinks (Parse.fail cause place : Parse α) := fun _ _ _ hp => by cases hp

theorem Shrinks.unexpected (t : Token) : Shrinks (Parse.unexpected t : Parse α) :=
  fun _ _ _ hp => by cases hp

theorem Shrinks.bind {p : Parse α} {f : α → Parse β} (hp : Shrinks p)
    (hf : ∀ x, Shrinks (f x)) : Shrinks (p >>= f) := by
  intro ts y rest h
  obtain ⟨x, mid, hx, hy⟩ := bind_eq_ok_iff.mp h
  exact (hf x mid y rest hy).trans (hp ts x mid hx)

theorem Shrinks.bind_pure {p : Parse α} (hp : Shrinks p) (g : α → β) :
    Shrinks (p >>= fun x => Pure.pure (g x)) := hp.bind fun _ => .pure _

theorem Shrinks.ite {c : Prop} [Decidable c] {p q : Parse α} (hp : Shrinks p) (hq : Shrinks q) :
    Shrinks (if c then p else q) := by
  by_cases h : c
  · rwa [if_pos h]
  · rwa [if_neg h]

theorem shrinks_current : Shrinks current := by
  intro ts t rest h
  obtain ⟨rfl, -⟩ := current_eq_ok h
  exact List.suffix_refl rest

theorem shrinks_sound (t : Token) : Shrinks (sound t) := by
  unfold sound
  split
  · exact .fail _ _
  · exact .pure _

theorem shrinks_get : Shrinks (get : Parse (List Token)) := by
  intro ts x rest h
  cases h
  exact List.suffix_refl ts

theorem shrinks_second : Shrinks second := by
  unfold second
  refine shrinks_get.bind fun ts => ?_
  split
  · exact shrinks_sound _
  · exact shrinks_sound _
  · exact .pure _

theorem shrinks_advance : Shrinks advance := by
  intro ts t rest h
  cases h
  exact List.tail_suffix ts

theorem shrinks_bound : Shrinks bound := shrinks_get.bind_pure _

theorem shrinks_takeIf (c : Lexeme → Bool) : Shrinks (takeIf c) :=
  (shrinks_current.bind_pure _).bind fun _ => .ite (shrinks_advance.bind_pure _) (.pure _)

theorem shrinks_skipMark (m : Mark) : Shrinks (skipMark m) := shrinks_takeIf (· == .mark m)

theorem shrinks_skipKeyword (word : String) : Shrinks (skipKeyword word) :=
  skipKeyword_eq_takeIf word ▸ shrinks_takeIf _

theorem shrinks_directives (isConst : Bool) : Shrinks (directives isConst) :=
  (reads_directivesWithin isConst levelLimit).shrinks

theorem shrinks_itemsUntil (close : Mark) {item : Parse α} (h : Shrinks item) (n : ℕ) :
    Shrinks (itemsUntil close item n) := by
  induction n with
  | zero => exact shrinks_current.bind fun _ => .unexpected _
  | succ n ih =>
    exact (shrinks_skipMark close).bind fun _ => .ite (.pure _) (h.bind fun _ => ih.bind_pure _)

theorem shrinks_bracketed (opening close : Mark) {item : Parse α} (h : Shrinks item) (n : ℕ) :
    Shrinks (bracketed opening close n item) :=
  (reads_expectMark opening).shrinks.bind fun _ => h.bind fun _ =>
    (shrinks_itemsUntil close h n).bind_pure _

theorem shrinks_optionalBracketed (opening close : Mark) {item : Parse α} (h : Shrinks item)
    (n : ℕ) : Shrinks (optionalBracketed opening close n item) :=
  (shrinks_current.bind_pure _).bind fun _ => .ite (shrinks_bracketed opening close h n) (.pure _)

theorem shrinks_separated (mark : Mark) {item : Parse α} (h : Shrinks item) (n : ℕ) :
    Shrinks (separated mark item n) := by
  induction n with
  | zero => exact shrinks_current.bind fun _ => .unexpected _
  | succ n ih =>
    exact h.bind fun _ => (shrinks_skipMark mark).bind fun _ => .ite (ih.bind_pure _) (.pure _)

theorem shrinks_delimited (mark : Mark) {item : Parse α} (h : Shrinks item) (n : ℕ) :
    Shrinks (delimited mark n item) := by
  have hdiscard : Shrinks (discard (skipMark mark)) := (shrinks_skipMark mark).bind_pure _
  exact hdiscard.bind fun _ => shrinks_separated mark h n

theorem shrinks_inputValue : Shrinks inputValue :=
  reads_description.shrinks.bind fun _ => reads_name.shrinks.bind fun _ =>
    (reads_expectMark .colon).shrinks.bind fun _ => reads_type.shrinks.bind fun _ =>
    reads_initial.shrinks.bind fun _ => (shrinks_directives true).bind_pure _

theorem shrinks_fieldDefinition : Shrinks fieldDefinition :=
  reads_description.shrinks.bind fun _ => reads_name.shrinks.bind fun _ =>
    shrinks_bound.bind fun _ => (shrinks_optionalBracketed _ _ shrinks_inputValue _).bind fun _ =>
    (reads_expectMark .colon).shrinks.bind fun _ => reads_type.shrinks.bind fun _ =>
    (shrinks_directives true).bind_pure _

theorem shrinks_enumValue : Shrinks enumValue := by
  unfold enumValue
  refine reads_description.shrinks.bind fun _ => shrinks_current.bind fun t => ?_
  split
  · exact .fail _ _
  · exact .fail _ _
  · exact .fail _ _
  · exact reads_name.shrinks.bind fun _ => (shrinks_directives true).bind_pure _

theorem shrinks_operationType : Shrinks operationType :=
  reads_operationKind.shrinks.bind fun _ => (reads_expectMark .colon).shrinks.bind fun _ =>
    reads_name.shrinks.bind_pure _

theorem shrinks_interfaces : Shrinks interfaces :=
  (shrinks_skipKeyword "implements").bind fun _ =>
    .ite (shrinks_bound.bind fun _ => shrinks_delimited _ reads_name.shrinks _) (.pure _)

theorem shrinks_unionMembers : Shrinks unionMembers :=
  (shrinks_skipMark .equals).bind fun _ =>
    .ite (shrinks_bound.bind fun _ => shrinks_delimited _ reads_name.shrinks _) (.pure _)

theorem shrinks_fields : Shrinks fields :=
  shrinks_bound.bind fun _ => shrinks_optionalBracketed _ _ shrinks_fieldDefinition _

theorem shrinks_directiveLocation : Shrinks directiveLocation :=
  shrinks_current.bind fun _ => reads_name.shrinks.bind fun _ => .ite (.pure _) (.unexpected _)

theorem shrinks_schemaDefinition : Shrinks schemaDefinition :=
  reads_description.shrinks.bind fun _ => (reads_expectKeyword "schema").shrinks.bind fun _ =>
    (shrinks_directives true).bind fun _ => shrinks_bound.bind fun _ =>
    (shrinks_bracketed _ _ shrinks_operationType _).bind_pure _

theorem shrinks_directiveDefinition : Shrinks directiveDefinition :=
  reads_description.shrinks.bind fun _ => (reads_expectKeyword "directive").shrinks.bind fun _ =>
    (reads_expectMark .at).shrinks.bind fun _ => reads_name.shrinks.bind fun _ =>
    shrinks_bound.bind fun _ => (shrinks_optionalBracketed _ _ shrinks_inputValue _).bind fun _ =>
    (shrinks_skipKeyword "repeatable").bind fun _ =>
    (reads_expectKeyword "on").shrinks.bind fun _ => shrinks_bound.bind fun _ =>
    (shrinks_delimited _ shrinks_directiveLocation _).bind_pure _

theorem shrinks_typeBody (kind : TypeKind) : Shrinks (typeBody kind) := by
  refine reads_name.shrinks.bind fun s => ?_
  cases kind with
  | scalar => exact (shrinks_directives true).bind_pure _
  | object =>
    exact shrinks_interfaces.bind fun _ => (shrinks_directives true).bind fun _ =>
      shrinks_fields.bind_pure _
  | interface =>
    exact shrinks_interfaces.bind fun _ => (shrinks_directives true).bind fun _ =>
      shrinks_fields.bind_pure _
  | union => exact (shrinks_directives true).bind fun _ => shrinks_unionMembers.bind_pure _
  | enum =>
    exact (shrinks_directives true).bind fun _ => shrinks_bound.bind fun _ =>
      (shrinks_optionalBracketed _ _ shrinks_enumValue _).bind_pure _
  | input =>
    exact (shrinks_directives true).bind fun _ => shrinks_bound.bind fun _ =>
      (shrinks_optionalBracketed _ _ shrinks_inputValue _).bind_pure _

theorem shrinks_typeDefinition (kind : TypeKind) : Shrinks (typeDefinition kind) :=
  reads_description.shrinks.bind fun _ => (reads_expectKeyword _).shrinks.bind fun _ =>
    (shrinks_typeBody kind).bind fun _ => .pure _

theorem shrinks_extension : Shrinks extension := by
  refine shrinks_second.bind fun keyword => .ite ?_ ?_
  · refine shrinks_advance.bind fun _ => shrinks_advance.bind fun _ => ?_
    refine (shrinks_directives true).bind fun _ => shrinks_bound.bind fun _ => ?_
    refine (shrinks_optionalBracketed _ _ shrinks_operationType _).bind fun _ => .ite ?_ ?_
    · exact shrinks_current.bind fun _ => (Shrinks.unexpected _).bind fun _ => .pure _
    · exact .pure _
  · split
    · refine shrinks_advance.bind fun _ => shrinks_advance.bind fun _ => ?_
      refine (shrinks_typeBody _).bind fun p => .ite ?_ ?_
      · exact shrinks_current.bind fun _ => (Shrinks.unexpected _).bind fun _ => .pure _
      · exact .pure _
    · exact .unexpected _

theorem shrinks_definitionOf (described : Bool) (first place : Token) (word : String) :
    Shrinks (definitionOf described first place word) := by
  refine .ite (shrinks_schemaDefinition.bind_pure _) <|
    .ite (shrinks_directiveDefinition.bind_pure _) ?_
  split
  · exact (shrinks_typeDefinition _).bind_pure _
  · exact .ite (reads_operation.shrinks.bind_pure _) <| .ite (reads_fragment.shrinks.bind_pure _) <|
      .ite (.fail _ _) <| .ite (shrinks_extension.bind_pure _) (.unexpected _)

theorem shrinks_definition : Shrinks definition := by
  refine shrinks_current.bind fun first => ?_
  split
  case h_2 | h_3 =>
    refine shrinks_second.bind fun keyword => ?_
    split
    · exact .fail _ _
    · exact shrinks_definitionOf _ _ _ _
    · exact .unexpected _
  · exact reads_operation.shrinks.bind_pure _
  · exact shrinks_definitionOf _ _ _ _
  · exact .unexpected _

/-- The last token that the step takes is a closing brace. -/
def Closes (p : Parse α) : Prop := ∀ ts x rest, p ts = .ok (x, rest) →
  ∃ used t, ts = used ++ t :: rest ∧ t.lexeme = .mark .closeBrace

theorem Closes.fail (cause : SyntaxCause) (place : Token) :
    Closes (Parse.fail cause place : Parse α) := fun _ _ _ hp => by cases hp

theorem Closes.behind {p : Parse α} {f : α → Parse β} (hp : Shrinks p)
    (hf : ∀ x, Closes (f x)) : Closes (p >>= f) := by
  intro ts y rest h
  obtain ⟨x, mid, hx, hy⟩ := bind_eq_ok_iff.mp h
  obtain ⟨before, rfl⟩ := hp ts x mid hx
  obtain ⟨used, t, rfl, ht⟩ := hf x mid y rest hy
  exact ⟨before ++ used, t, (List.append_assoc _ _ _).symm, ht⟩

theorem Closes.bind_pure {p : Parse α} (hp : Closes p) (g : α → β) :
    Closes (p >>= fun x => Pure.pure (g x)) := by
  intro ts y rest h
  obtain ⟨x, mid, hx, hy⟩ := bind_eq_ok_iff.mp h
  obtain ⟨-, rfl⟩ := pure_eq_ok_iff.mp hy
  exact hp ts x mid hx

theorem Closes.ite {c : Prop} [Decidable c] {p q : Parse α} (hp : Closes p) (hq : Closes q) :
    Closes (if c then p else q) := by
  by_cases h : c
  · rwa [if_pos h]
  · rwa [if_neg h]

theorem look_eq_ok {c : Lexeme → Bool} {ts rest : List Token} {b : Bool}
    (h : look c ts = .ok (b, rest)) : rest = ts ∧ b = c (nextLexeme ts) := by
  obtain ⟨t, mid, ht, hpure⟩ := bind_eq_ok_iff.mp h
  obtain ⟨rfl, rfl⟩ := pure_eq_ok_iff.mp hpure
  obtain ⟨rfl, hlexeme, -⟩ := current_eq_ok ht
  exact ⟨rfl, congrArg c hlexeme⟩

theorem takeIf_eq_ok {c : Lexeme → Bool} {ts rest : List Token} {b : Bool}
    (h : takeIf c ts = .ok (b, rest)) :
    c (nextLexeme ts) = b ∧ rest = if b then ts.tail else ts := by
  obtain ⟨b', mid, hb, htake⟩ := bind_eq_ok_iff.mp h
  obtain ⟨rfl, rfl⟩ := look_eq_ok hb
  cases hc : c (nextLexeme mid) with
  | true =>
    rw [hc, if_pos rfl] at htake
    obtain ⟨⟨⟩, after, hadvance, hpure⟩ := bind_eq_ok_iff.mp htake
    obtain ⟨rfl, rfl⟩ := pure_eq_ok_iff.mp hpure
    cases hadvance
    exact ⟨rfl, rfl⟩
  | false =>
    rw [hc, if_neg (by simp)] at htake
    obtain ⟨rfl, rfl⟩ := pure_eq_ok_iff.mp htake
    exact ⟨rfl, rfl⟩

theorem exists_of_nextLexeme {ts : List Token} (h : nextLexeme ts ≠ .finish) :
    ∃ t, ts = t :: ts.tail ∧ t.lexeme = nextLexeme ts := by
  cases ts with
  | nil => exact absurd rfl h
  | cons t ts => exact ⟨t, rfl, rfl⟩

theorem closes_itemsUntil {item : Parse α} (h : Shrinks item) (n : ℕ) :
    Closes (itemsUntil .closeBrace item n) := by
  induction n with
  | zero => exact .behind shrinks_current fun _ => .fail _ _
  | succ n ih =>
    intro ts xs rest hp
    obtain ⟨b, mid, hskip, hbehind⟩ := bind_eq_ok_iff.mp hp
    cases b with
    | true =>
      obtain ⟨-, rfl⟩ := pure_eq_ok_iff.mp hbehind
      obtain ⟨hbrace, rfl⟩ := takeIf_eq_ok (skipMark_eq_takeIf .closeBrace ▸ hskip)
      have hnext : nextLexeme ts = .mark .closeBrace := by simpa using hbrace
      have hfinish : nextLexeme ts ≠ .finish := by simp [hnext]
      obtain ⟨t, hts, ht⟩ := exists_of_nextLexeme hfinish
      exact ⟨[], t, hts, ht.trans hnext⟩
    | false =>
      obtain ⟨before, rfl⟩ := shrinks_skipMark .closeBrace ts _ _ hskip
      have hcloses : Closes (item >>= fun x => itemsUntil .closeBrace item n >>= fun xs =>
          Pure.pure (x :: xs)) := .behind h fun _ => ih.bind_pure _
      obtain ⟨used, t, rfl, ht⟩ := hcloses mid xs rest hbehind
      exact ⟨before ++ used, t, (List.append_assoc _ _ _).symm, ht⟩

theorem closes_selectionSet (room : ℕ) : Closes (selectionSet room) := by
  cases room with
  | zero => exact .behind shrinks_current fun _ => .fail _ _
  | succ room =>
    have hitem : Shrinks (selection room (selectionSet room)) :=
      (reads_selection room (reads_selectionSet room)).shrinks
    exact .behind shrinks_bound fun n => .behind (reads_expectMark .openBrace).shrinks fun _ =>
      .behind hitem fun _ => (closes_itemsUntil hitem n).bind_pure _

theorem closes_operation : Closes operation := by
  have hbehind : ∀ about kind label, Closes (operationBehind about kind label) :=
    fun about kind label => .behind shrinks_bound fun _ =>
      .behind (shrinks_optionalBracketed _ _ reads_variableDefinition.shrinks _) fun _ =>
      .behind (shrinks_directives false) fun _ => (closes_selectionSet levelLimit).bind_pure _
  refine .behind (shrinks_current.bind_pure _) fun _ => .ite ?_ ?_
  · exact (closes_selectionSet levelLimit).bind_pure _
  · refine .behind reads_description.shrinks fun about => ?_
    refine .behind reads_operationKind.shrinks fun kind => ?_
    refine .behind (hasName_eq_look ▸ shrinks_current.bind_pure _) fun _ => .ite ?_ ?_
    · exact .behind (reads_name.shrinks.bind_pure _) fun label => hbehind about kind label
    · exact hbehind about kind none

theorem closes_fragment : Closes fragment :=
  .behind reads_description.shrinks fun _ => .behind (reads_expectKeyword "fragment").shrinks fun _ =>
    .behind reads_fragmentName.shrinks fun _ => .behind (reads_expectKeyword "on").shrinks fun _ =>
    .behind reads_name.shrinks fun _ => .behind (shrinks_directives false) fun _ =>
    (closes_selectionSet levelLimit).bind_pure _

end OperationClasses.Syntax.Parse
