import OperationClasses.Proofs.Syntax.Rereading
import OperationClasses.Proofs.Syntax.Unlocated

/-!
# The executable grammar read again

Values, types, directives, selections, operations and fragments are the same wherever their
tokens stand again, up to the offsets of arguments and directives.
-/
namespace OperationClasses.Syntax.Parse

variable {α γ : Type}

theorem reads_expectMark (m : Mark) : Reads .closed id (expectMark m) := by
  intro n n' l
  unfold expectMark
  refine ReadsAt.current_bind .closed fun t t' ht ht' => ?_
  rw [ht, ht']
  by_cases h : l = .mark m
  · subst h
    simpa using readsAt_advance (by simp)
  · simpa [h] using ReadsAt.fail _ _

theorem reads_expectKeyword (word : String) : Reads .closed id (expectKeyword word) := by
  intro n n' l
  unfold expectKeyword
  refine ReadsAt.current_bind .closed fun t t' ht ht' => ?_
  rw [ht, ht']
  by_cases h : l = .name word
  · subst h
    simpa using readsAt_advance (by simp)
  · simpa [h] using ReadsAt.fail _ _

/-- A step that takes a token and returns something. -/
theorem readsAt_advance_pure {n n' : ℕ} {l : Lexeme} (h : l ≠ .finish) (x : α) :
    ReadsAt n n' l .closed id (advance >>= fun _ => pure x) (advance >>= fun _ => pure x) :=
  (readsAt_advance h).bind_same .idle fun _ _ => .pure rfl

theorem reads_name : Reads .closed id name := by
  intro n n' l
  unfold name
  refine ReadsAt.current_bind .closed fun t t' ht ht' => ?_
  rw [ht, ht']
  cases l with
  | name s => exact readsAt_advance_pure (by simp) s
  | _ => exact .fail _ _

section

variable {n n' : ℕ} {l : Lexeme} {e : Extent} {view : α → γ} {item : Parse α}

theorem ReadsAt.refused {p' : Parse α} :
    ReadsAt n n' l e view (do Parse.unexpected (← current)) p' := by
  intro ts x rest _ h
  obtain ⟨t, mid, -, h⟩ := bind_eq_ok_iff.mp h
  cases h

/-- Where a token is taken or looked at, one token is left at least. -/
theorem ReadsAt.of_told_one {p p' p'' : Parse α} (h : ReadsAt (n + 1) 1 l e view p p'')
    (he : e.eats || e.looks) : ReadsAt (n + 1) 0 l e view p p' := by
  intro ts x rest hl hp
  obtain ⟨used, hts, heats, -⟩ := h ts x rest hl hp
  refine ⟨used, hts, heats, fun used' rest' _ _ hroom => ?_⟩
  have hlength := toNat_le_length heats
  rcases Bool.or_eq_true_iff.mp he with h | h <;>
    simp only [h, Bool.toNat_true] at hlength hroom <;> omega

theorem readsAt_itemsUntil (close : Mark) (hitem : Reads .trailing view item) :
    ReadsAt n n' l .closed (List.map view) (itemsUntil close item n)
      (itemsUntil close item n') := by
  induction n generalizing n' l with
  | zero => exact .refused
  | succ n ih =>
    have hstep : ∀ n', ReadsAt (n + 1) (n' + 1) l .closed (List.map view)
        (itemsUntil close item (n + 1)) (itemsUntil close item (n' + 1)) := by
      intro n'
      rw [itemsUntil, itemsUntil, skipMark_eq_takeIf]
      refine ReadsAt.takeIf_bind rfl .idle .closed (fun _ => .pure rfl)
        (fun _ => ?_) (by decide) (by decide)
      refine (hitem _ _ l).bind_told n n' .closed (fun x x' hx l => ?_)
        (by omega) (by simp [Extent.trailing])
      exact ReadsAt.bind ih .idle fun xs xs' hxs _ => .pure (by simp [hx, hxs])
    cases n' with
    | zero => exact (hstep 0).of_told_one rfl
    | succ n' => exact hstep n'

theorem readsAt_whileNext (mark : Mark) (hitem : Reads .trailing view item) :
    ReadsAt n n' l .peeking (List.map view) (whileNext mark item n) (whileNext mark item n') := by
  induction n generalizing n' l with
  | zero => exact .refused
  | succ n ih =>
    have hstep : ∀ n', ReadsAt (n + 1) (n' + 1) l .peeking (List.map view)
        (whileNext mark item (n + 1)) (whileNext mark item (n' + 1)) := by
      intro n'
      rw [whileNext, whileNext, isNext_eq_look]
      refine ReadsAt.look_bind .trailing .idle (fun _ => ?_)
        (fun _ => .pure rfl) (by decide) (by decide)
      refine (hitem _ _ l).bind_told n n' .peeking (fun x x' hx l => ?_)
        (by omega) (by simp [Extent.trailing])
      exact ReadsAt.bind ih .idle fun xs xs' hxs _ => .pure (by simp [hx, hxs])
    cases n' with
    | zero => exact (hstep 0).of_told_one rfl
    | succ n' => exact hstep n'

theorem readsAt_bracketed (opening close : Mark) (hitem : Reads .trailing view item) :
    ReadsAt n n' l .closed (List.map view) (bracketed opening close n item)
      (bracketed opening close n' item) := by
  unfold bracketed
  refine (reads_expectMark opening n n' l).bind_same .closed fun _ l => ?_
  refine (hitem n n' l).bind .closed fun x x' hx l => ?_
  exact ReadsAt.bind (readsAt_itemsUntil close hitem) .idle fun xs xs' hxs _ =>
    .pure (by simp [hx, hxs])

theorem readsAt_optionalBracketed (opening close : Mark) (hitem : Reads .trailing view item) :
    ReadsAt n n' l .peeking (List.map view) (optionalBracketed opening close n item)
      (optionalBracketed opening close n' item) := by
  unfold optionalBracketed
  rw [isNext_eq_look]
  exact ReadsAt.look_bind .closed .idle (fun _ => readsAt_bracketed opening close hitem)
    (fun _ => ReadsAt.pure rfl) (by decide) (by decide)

theorem Reads.weaken {e' : Extent} {p : Parse α} (h : Reads e view p) (he : e.Within e') :
    Reads e' view p := fun n n' l => (h n n' l).weaken he

end

theorem reads_variableName (isConst : Bool) : Reads .closed id (variableName isConst) := by
  intro n n' l
  unfold variableName
  refine ReadsAt.current_bind .closed fun t t' _ _ => ?_
  refine (reads_expectMark .dollar n n' l).bind_same .closed fun _ l => ?_
  cases isConst with
  | false => exact reads_name n n' l
  | true =>
    refine ReadsAt.current_bind .closed fun s s' hs hs' => ?_
    rw [hs, hs']
    cases l with
    | name => exact .fail _ _
    | _ => exact .unexpected _

/-- A field of an object, given how its value is read. -/
def objectField (nested : Parse Value) : Parse (String × Value) := do
  let key ← name
  expectMark .colon
  return (key, ← nested)

theorem reads_objectField {nested : Parse Value} (h : Reads .closed id nested) :
    Reads .trailing id (objectField nested) := by
  intro n n' l
  refine (reads_name n n' l).bind_same .trailing fun key l => ?_
  refine (reads_expectMark .colon n n' l).bind_same .trailing fun _ l => ?_
  have hvalue : ReadsAt n n' l .trailing id nested nested := (h n n' l).weaken (by decide)
  exact hvalue.bind_same .idle fun x _ => .pure rfl

/-- A value, given that one inside it reads the same. -/
theorem reads_valueWithin (isConst : Bool) {nested? : Option (Parse Value)}
    (h : ∀ nested, nested? = some nested → Reads .closed id nested) :
    Reads .closed id (valueWithin isConst nested?) := by
  intro n n' l
  unfold valueWithin
  refine ReadsAt.current_bind .closed fun t t' ht ht' => ?_
  rw [ht, ht']
  cases l with
  | mark m =>
    cases m with
    | openBracket =>
      cases nested? with
      | none => exact .fail _ _
      | some nested =>
        have hitem : Reads .trailing id nested := (h nested rfl).weaken (by decide)
        refine (readsAt_advance (by simp)).bind_same .closed fun _ l => ?_
        refine ReadsAt.bound_bind fun n n' => ?_
        refine (readsAt_itemsUntil .closeBracket hitem).bind .idle fun xs xs' hxs _ => ?_
        exact .pure (by simpa using hxs)
    | openBrace =>
      cases nested? with
      | none => exact .fail _ _
      | some nested =>
        refine (readsAt_advance (by simp)).bind_same .closed fun _ l => ?_
        refine ReadsAt.bound_bind fun n n' => ?_
        refine (readsAt_itemsUntil .closeBrace (reads_objectField (h nested rfl))).bind .idle
          fun xs xs' hxs _ => ?_
        exact .pure (by simpa using hxs)
    | dollar =>
      exact (reads_variableName isConst n n' _).bind_same .idle fun _ _ => .pure rfl
    | _ => exact .unexpected _
  | name s =>
    by_cases htrue : s = "true"
    · subst htrue
      exact readsAt_advance_pure (by simp) _
    by_cases hfalse : s = "false"
    · subst hfalse
      exact readsAt_advance_pure (by simp) _
    by_cases hnull : s = "null"
    · subst hnull
      exact readsAt_advance_pure (by simp) _
    · simp only
      exact readsAt_advance_pure (by simp) _
  | int s => exact readsAt_advance_pure (by simp) _
  | float s => exact readsAt_advance_pure (by simp) _
  | string s => exact readsAt_advance_pure (by simp) _
  | block s => exact readsAt_advance_pure (by simp) _
  | finish => exact .unexpected _
  | broken => exact .unexpected _

theorem reads_value (isConst : Bool) (room : ℕ) : Reads .closed id (value isConst room) := by
  induction room with
  | zero => exact reads_valueWithin isConst (by simp)
  | succ room ih => exact reads_valueWithin isConst fun nested h => Option.some.inj h ▸ ih

theorem reads_argument (isConst : Bool) (room : ℕ) :
    Reads .closed Argument.unlocated (argument isConst room) := by
  intro n n' l
  unfold argument
  refine (reads_name n n' l).bind_same .closed fun key l => ?_
  refine (reads_expectMark .colon n n' l).bind_same .closed fun _ l => ?_
  refine ReadsAt.current_bind .closed fun t t' _ _ => ?_
  exact (reads_value isConst room n n' l).bind_same .idle fun x _ => .pure rfl

theorem reads_arguments (isConst : Bool) (room : ℕ) :
    Reads .peeking (List.map Argument.unlocated) (arguments isConst room) := by
  intro n n' l
  refine ReadsAt.bound_bind fun n n' => ?_
  exact readsAt_optionalBracketed _ _ ((reads_argument isConst room).weaken (by decide))

theorem reads_directive (isConst : Bool) (room : ℕ) :
    Reads .trailing Directive.unlocated (directive isConst room) := by
  intro n n' l
  unfold directive
  refine ReadsAt.current_bind .trailing fun t t' _ _ => ?_
  refine (reads_expectMark .at n n' l).bind_same .trailing fun _ l => ?_
  refine (reads_name n n' l).bind_same .peeking fun s l => ?_
  refine (reads_arguments isConst room n n' l).bind .idle fun args args' hargs _ => ?_
  exact .pure (by simp [Directive.unlocated, hargs])

theorem reads_directivesWithin (isConst : Bool) (room : ℕ) :
    Reads .peeking (List.map Directive.unlocated) (directivesWithin isConst room) := by
  intro n n' l
  refine ReadsAt.bound_bind fun n n' => ?_
  exact readsAt_whileNext .at (reads_directive isConst room)

theorem reads_initial : Reads .peeking id initial := by
  intro n n' l
  unfold initial
  rw [skipMark_eq_takeIf]
  refine ReadsAt.takeIf_bind rfl .closed .idle (fun l => ?_)
    (fun _ => .pure rfl) (by decide) (by decide)
  exact (reads_value true levelLimit n n' l).bind_same .idle fun x _ => .pure rfl

/-- A type reference whose exclamation mark is still to be read. -/
def suffixed (inner : TypeRef) : Parse TypeRef := do
  if ← skipMark .bang then return .nonNull inner else return inner

theorem reads_suffixed (inner : TypeRef) : Reads .peeking id (suffixed inner) := by
  intro n n' l
  unfold suffixed
  rw [skipMark_eq_takeIf]
  exact ReadsAt.takeIf_bind rfl .idle .idle (fun _ => .pure rfl)
    (fun _ => .pure rfl) (by decide) (by decide)

theorem reads_elementWithin {nested? : Option (Parse TypeRef)}
    (h : ∀ nested, nested? = some nested → Reads .trailing id nested) :
    Reads .closed id (elementWithin nested?) := by
  intro n n' l
  unfold elementWithin
  cases nested? with
  | none => exact ReadsAt.current_bind .closed fun t t' _ _ => .fail _ _
  | some nested =>
    refine (h nested rfl n n' l).bind_same .closed fun element l => ?_
    exact (reads_expectMark .closeBracket n n' l).bind_same .idle fun _ _ => .pure rfl

/-- A type reference, given that the element of a list type reads the same. -/
theorem reads_typeWithin {nested? : Option (Parse TypeRef)}
    (h : ∀ nested, nested? = some nested → Reads .trailing id nested) :
    Reads .trailing id (typeWithin nested?) := by
  intro n n' l
  unfold typeWithin
  rw [skipMark_eq_takeIf]
  refine ReadsAt.takeIf_bind rfl .trailing .trailing (fun l => ?_) (fun _ => ?_)
    (by decide) (by decide)
  · exact (reads_elementWithin h n n' l).bind_same .peeking fun inner l =>
      reads_suffixed inner n n' l
  · refine (reads_name n n' l).bind_same .peeking fun s l => ?_
    exact reads_suffixed (.named (some s)) n n' l

theorem reads_type : Reads .trailing id type := by
  have hroom : ∀ room, Reads .trailing id (typeRef room) := by
    intro room
    induction room with
    | zero => exact reads_typeWithin (by simp)
    | succ room ih => exact reads_typeWithin fun nested h => Option.some.inj h ▸ ih
  exact hroom levelLimit

theorem reads_description : Reads .peeking id description := by
  intro n n' l
  unfold description
  refine ReadsAt.current_bind .peeking fun t t' ht ht' => ?_
  rw [ht, ht']
  cases l with
  | string s => exact (readsAt_advance_pure (by simp) _).weaken (by decide)
  | block s => exact (readsAt_advance_pure (by simp) _).weaken (by decide)
  | _ => exact (ReadsAt.pure rfl).weaken (by decide)

theorem reads_fragmentName : Reads .closed id fragmentName := by
  intro n n' l
  unfold fragmentName
  refine ReadsAt.current_bind .closed fun t t' ht ht' => ?_
  rw [ht, ht']
  by_cases h : l.value? == some "on"
  · simpa [h] using ReadsAt.unexpected _
  · simpa [h] using reads_name n n' l

/-- What follows the name of a field. -/
def fieldBehind (room : ℕ) (nested : Parse (List Selection)) (alias? : Option String)
    (fieldName : String) (offset : ℕ) : Parse Selection := do
  let args ← arguments false room
  let ds ← directivesWithin false room
  let inner ← if ← isNext .openBrace then some <$> nested else pure none
  return .field alias? fieldName args ds inner offset

theorem readsAt_fieldBehind (room : ℕ) {nested : Parse (List Selection)}
    (h : Reads .closed Selection.unlocatedAll nested) (alias? : Option String)
    (fieldName : String) (offset offset' n n' : ℕ) (l : Lexeme) :
    ReadsAt n n' l .peeking Selection.unlocated (fieldBehind room nested alias? fieldName offset)
      (fieldBehind room nested alias? fieldName offset') := by
  unfold fieldBehind
  refine (reads_arguments false room n n' l).bind .peeking fun args args' hargs l => ?_
  refine (reads_directivesWithin false room n n' l).bind .peeking fun ds ds' hds l => ?_
  rw [isNext_eq_look]
  refine ReadsAt.look_bind .closed .idle (fun _ => ?_) (fun _ => ?_) (by decide)
    (by decide)
  · have hinner : ReadsAt n n' l .closed (Option.map Selection.unlocatedAll) (some <$> nested)
        (some <$> nested) := (h n n' l).map some (by simp)
    exact hinner.bind .idle fun inner inner' hinner _ =>
      .pure (by simp [Selection.unlocated_field, hargs, hds, hinner])
  · exact ReadsAt.pure (by simp [Selection.unlocated_field, hargs, hds])

/-- What follows the type condition of an inline fragment. -/
def inlineBehind (room : ℕ) (nested : Parse (List Selection)) (condition? : Option String) :
    Parse Selection := do
  let ds ← directivesWithin false room
  return .inline condition? ds (← nested)

theorem reads_inlineBehind (room : ℕ) {nested : Parse (List Selection)}
    (h : Reads .closed Selection.unlocatedAll nested) (condition? : Option String) :
    Reads .closed Selection.unlocated (inlineBehind room nested condition?) := by
  intro n n' l
  refine (reads_directivesWithin false room n n' l).bind .closed fun ds ds' hds l => ?_
  refine (h n n' l).bind .idle fun inner inner' hinner _ => ?_
  exact .pure (by simp [Selection.unlocated, hds, hinner])

/-- A selection, given that its own selection set reads the same. -/
theorem reads_selection (room : ℕ) {nested : Parse (List Selection)}
    (h : Reads .closed Selection.unlocatedAll nested) :
    Reads .trailing Selection.unlocated (selection room nested) := by
  intro n n' l
  unfold selection
  rw [skipMark_eq_takeIf, skipKeyword_eq_takeIf, hasName_eq_look]
  refine ReadsAt.current_bind .trailing fun t t' _ _ => ?_
  refine ReadsAt.takeIf_bind rfl .peeking .trailing (fun l => ?_) (fun _ => ?_)
    (by decide) (by decide)
  · refine ReadsAt.takeIf_bind rfl .closed .peeking (fun l => ?_) (fun _ => ?_)
      (by decide) (by decide)
    · refine (reads_name n n' l).bind_same .closed fun condition l => ?_
      exact reads_inlineBehind room h (some condition) n n' l
    · refine ReadsAt.look_bind .trailing .closed (fun _ => ?_) (fun _ => ?_)
        (by decide) (by decide)
      · refine (reads_fragmentName n n' l).bind_same .peeking fun s l => ?_
        refine (reads_directivesWithin false room n n' l).bind .idle fun ds ds' hds _ => ?_
        exact .pure (by simp [Selection.unlocated, hds])
      · exact reads_inlineBehind room h none n n' l
  · refine (reads_name n n' l).bind_same .peeking fun first l => ?_
    rw [skipMark_eq_takeIf]
    refine ReadsAt.takeIf_bind rfl .trailing .peeking (fun l => ?_) (fun _ => ?_)
      (by decide) (by decide)
    · exact (reads_name n n' l).bind_same .peeking fun s l =>
        readsAt_fieldBehind room h (some first) s t.start t'.start n n' l
    · exact readsAt_fieldBehind room h none first t.start t'.start n n' l

theorem reads_selectionSet (room : ℕ) :
    Reads .closed Selection.unlocatedAll (selectionSet room) := by
  induction room with
  | zero =>
    intro n n' l
    exact ReadsAt.current_bind .closed fun t t' _ _ => .fail _ _
  | succ room ih =>
    intro n n' l
    refine ReadsAt.bound_bind fun n n' => ?_
    rw [funext Selection.unlocatedAll_eq_map]
    exact readsAt_bracketed .openBrace .closeBrace (reads_selection room ih)

theorem reads_operationKind : Reads .closed id operationKind := by
  intro n n' l
  unfold operationKind
  refine ReadsAt.current_bind .closed fun t t' ht ht' => ?_
  rw [ht, ht']
  cases l with
  | name s =>
    cases hkind : OperationKind.ofText? s with
    | none => simpa only [hkind] using ReadsAt.unexpected _
    | some kind => simpa only [hkind] using readsAt_advance_pure (by simp) kind
  | _ => exact .fail _ _

theorem reads_variableDefinition :
    Reads .trailing VariableDefinition.unlocated variableDefinition := by
  intro n n' l
  unfold variableDefinition
  refine (reads_description n n' l).bind_same .trailing fun about l => ?_
  refine (reads_variableName false n n' l).bind_same .trailing fun s l => ?_
  refine (reads_expectMark .colon n n' l).bind_same .trailing fun _ l => ?_
  refine (reads_type n n' l).bind_same .peeking fun t l => ?_
  refine (reads_initial n n' l).bind_same .peeking fun value? l => ?_
  refine (reads_directivesWithin true levelLimit n n' l).bind .idle fun ds ds' hds _ => ?_
  exact .pure (by simp [VariableDefinition.unlocated, hds])

/-- What follows the name of an operation. -/
def operationBehind (about : Option Description) (kind : OperationKind) (label : Option String) :
    Parse Operation := do
  let vs ← optionalBracketed .openParen .closeParen (← bound) variableDefinition
  let ds ← directives false
  return ⟨about, .parsed kind, label, vs, ds, ← selections, none⟩

theorem reads_operationBehind (about : Option Description) (kind : OperationKind)
    (label : Option String) :
    Reads .closed Operation.unlocated (operationBehind about kind label) := by
  intro n n' l
  unfold operationBehind
  refine ReadsAt.bound_bind fun n n' => ?_
  refine (readsAt_optionalBracketed .openParen .closeParen reads_variableDefinition).bind
    .closed fun vs vs' hvs l => ?_
  refine (reads_directivesWithin false levelLimit n n' l).bind .closed
    fun ds ds' hds l => ?_
  refine (reads_selectionSet levelLimit n n' l).bind .idle fun ss ss' hss _ => ?_
  exact .pure (by simp [Operation.unlocated, hvs, hds, hss])

theorem reads_operation : Reads .closed Operation.unlocated operation := by
  intro n n' l
  unfold operation
  rw [isNext_eq_look, hasName_eq_look]
  refine ReadsAt.look_bind .closed .closed (fun _ => ?_) (fun _ => ?_) (by decide)
    (by decide)
  · refine (reads_selectionSet levelLimit n n' l).bind .idle fun ss ss' hss _ => ?_
    exact .pure (by simp [Operation.unlocated, hss])
  · refine (reads_description n n' l).bind_same .closed fun about l => ?_
    refine (reads_operationKind n n' l).bind_same .closed fun kind l => ?_
    refine ReadsAt.look_bind .closed .closed (fun _ => ?_) (fun _ => ?_)
      (by decide) (by decide)
    · have hname : ReadsAt n n' l .closed id (some <$> name) (some <$> name) :=
        (reads_name n n' l).map some (by simp)
      exact hname.bind_same .closed fun label l =>
        reads_operationBehind about kind label n n' l
    · exact reads_operationBehind about kind none n n' l

theorem reads_fragment : Reads .closed Fragment.unlocated fragment := by
  intro n n' l
  unfold fragment
  refine (reads_description n n' l).bind_same .closed fun about l => ?_
  refine (reads_expectKeyword "fragment" n n' l).bind_same .closed fun _ l => ?_
  refine (reads_fragmentName n n' l).bind_same .closed fun s l => ?_
  refine (reads_expectKeyword "on" n n' l).bind_same .closed fun _ l => ?_
  refine (reads_name n n' l).bind_same .closed fun condition l => ?_
  refine (reads_directivesWithin false levelLimit n n' l).bind .closed
    fun ds ds' hds l => ?_
  refine (reads_selectionSet levelLimit n n' l).bind .idle fun ss ss' hss _ => ?_
  exact .pure (by simp [Fragment.unlocated, hds, hss])

end OperationClasses.Syntax.Parse
