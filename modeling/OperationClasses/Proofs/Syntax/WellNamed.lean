import OperationClasses.Proofs.Selection.TypedLevels
import OperationClasses.Proofs.Syntax.TypeReferences

/-!
# Names in a document

The lexer takes nothing for a name that is none, and the parser puts nothing else where a name has
to stand. So in a document that was read from a text, whatever is known by a name is known by a
proper one, and references to types are written ones.
-/
namespace OperationClasses.Syntax

open OperationClasses.Selection

/-- Response keys and spreads are names, in a selection and below it. -/
def Selection.WellNamed (s : Selection) : Prop :=
  ∀ name ∈ textKeys s ++ spreadNames s, isName name

structure VariableDefinition.WellNamed (v : VariableDefinition) : Prop where
  name : isName v.name
  type : v.type.Written

structure Operation.WellNamed (o : Operation) : Prop where
  name : ∀ name, o.name? = some name → isName name
  «variables» : ∀ v ∈ o.variables, v.WellNamed
  selections : ∀ s ∈ o.selections, s.WellNamed

structure Fragment.WellNamed (f : Fragment) : Prop where
  name : isName f.name
  selections : ∀ s ∈ f.selections, s.WellNamed

structure InputValueDefinition.WellNamed (f : InputValueDefinition) : Prop where
  name : isName f.name
  type : f.type.Written

structure FieldDefinition.WellNamed (f : FieldDefinition) : Prop where
  name : isName f.name
  type : f.type.Written

/-- Fields and values bear names, and fields have written types. -/
def TypeBody.WellNamed : TypeBody → Prop
  | .object _ fs => ∀ f ∈ fs, f.WellNamed
  | .interface _ fs => ∀ f ∈ fs, f.WellNamed
  | .enum vs => ∀ v ∈ vs, isName v.name
  | .input fs => ∀ f ∈ fs, f.WellNamed
  | .scalar => True
  | .union _ => True

structure TypeDefinition.WellNamed (d : TypeDefinition) : Prop where
  name : isName d.name
  body : d.body.WellNamed

/-- The definitions of operations, fragments and types; of others no name is asked for. -/
def Definition.WellNamed : Definition → Prop
  | .operation o => o.WellNamed
  | .fragment f => f.WellNamed
  | .typeSystem (.type d) _ => d.WellNamed
  | .typeSystem (.schema _) _ => True
  | .typeSystem (.directive _) _ => True

theorem Definition.wellNamed_withSource {d : Definition} {source? : Option String} :
    (d.withSource source?).WellNamed ↔ d.WellNamed := by
  cases d with
  | operation o => exact ⟨fun ⟨a, b, c⟩ => ⟨a, b, c⟩, fun ⟨a, b, c⟩ => ⟨a, b, c⟩⟩
  | fragment f => exact ⟨fun ⟨a, b⟩ => ⟨a, b⟩, fun ⟨a, b⟩ => ⟨a, b⟩⟩
  | typeSystem d s => cases d <;> exact Iff.rfl

theorem Selection.isName_of_wellNamed {selections : List Selection}
    (h : ∀ s ∈ selections, s.WellNamed) :
    ∀ name ∈ textKeysAll selections ++ spreadNamesAll selections, isName name := by
  intro name hname
  rcases List.mem_append.mp hname with hkey | hspread
  · obtain ⟨s, hs, hkey⟩ := mem_textKeysAll.mp hkey
    exact h s hs name (List.mem_append_left _ hkey)
  · obtain ⟨s, hs, hspread⟩ := mem_spreadNamesAll.mp hspread
    exact h s hs name (List.mem_append_right _ hspread)

theorem Selection.wellNamed_field {alias? : Option String} {fieldName : String}
    (hkey : isName (alias?.getD fieldName)) (args : List Argument) (ds : List Directive)
    {inner? : Option (List Selection)} (hinner : ∀ inner ∈ inner?, ∀ s ∈ inner, s.WellNamed)
    (offset : ℕ) : (Selection.field alias? fieldName args ds inner? offset).WellNamed := by
  cases inner? with
  | none => simpa [WellNamed, textKeys, spreadNames] using hkey
  | some inner =>
    intro name hname
    rw [textKeys, spreadNames, List.cons_append] at hname
    rcases List.mem_cons.mp hname with rfl | hname
    · exact hkey
    · exact isName_of_wellNamed (hinner inner rfl) name hname

theorem Selection.wellNamed_spread {fragmentName : String} (h : isName fragmentName)
    (ds : List Directive) (offset : ℕ) : (Selection.spread fragmentName ds offset).WellNamed := by
  intro name hname
  rw [textKeys, spreadNames, List.nil_append, List.mem_singleton] at hname
  rwa [hname]

theorem Selection.wellNamed_inline {inner : List Selection} (h : ∀ s ∈ inner, s.WellNamed)
    (condition? : Option String) (ds : List Directive) :
    (Selection.inline condition? ds inner).WellNamed := by
  intro name hname
  rw [textKeys, spreadNames] at hname
  exact isName_of_wellNamed h name hname

namespace Parse

variable {α β : Type} {P : α → Prop} {Q : β → Prop}

/-- What the tokens have for names are names. -/
def Tidy (ts : List Token) : Prop :=
  ∀ t ∈ ts, ∀ s, t.lexeme = .name s → OperationClasses.isName s

theorem tidy_tokens (text : String) : Tidy (tokens text) :=
  fun _ ht _ hs => isName_of_tokensFrom ht hs

theorem Tidy.of_suffix {ts rest : List Token} (h : Tidy ts) (hrest : rest <:+ ts) : Tidy rest :=
  fun t ht => h t (hrest.subset ht)

/-- Of tidy tokens, the step makes what has a property, and leaves tidy ones. -/
def Makes (P : α → Prop) (p : Parse α) : Prop :=
  ∀ ts x rest, Tidy ts → p ts = .ok (x, rest) → P x ∧ Tidy rest

theorem Makes.pure {x : α} (h : P x) : Makes P (Pure.pure x) := by
  intro ts y rest hts hp
  obtain ⟨rfl, rfl⟩ := pure_eq_ok_iff.mp hp
  exact ⟨h, hts⟩

theorem Makes.fail (cause : SyntaxCause) (place : Token) : Makes P (Parse.fail cause place) :=
  fun _ _ _ _ hp => by cases hp

theorem Makes.unexpected (t : Token) : Makes P (Parse.unexpected t) :=
  fun _ _ _ _ hp => by cases hp

theorem Makes.bind {p : Parse α} {f : α → Parse β} (hp : Makes P p)
    (hf : ∀ x, P x → Makes Q (f x)) : Makes Q (p >>= f) := by
  intro ts y rest hts h
  obtain ⟨x, mid, hx, hy⟩ := bind_eq_ok_iff.mp h
  obtain ⟨hx, hmid⟩ := hp ts x mid hts hx
  exact hf x hx mid y rest hmid hy

/-- Of most steps it does not matter what they make. -/
theorem Makes.behind {p : Parse α} {f : α → Parse β} (hp : Shrinks p)
    (hf : ∀ x, Makes Q (f x)) : Makes Q (p >>= f) := by
  intro ts y rest hts h
  obtain ⟨x, mid, hx, hy⟩ := bind_eq_ok_iff.mp h
  exact hf x mid y rest (hts.of_suffix (hp ts x mid hx)) hy

theorem Makes.bind_pure {p : Parse α} {g : α → β} (hp : Makes P p) (hg : ∀ x, P x → Q (g x)) :
    Makes Q (p >>= fun x => Pure.pure (g x)) := hp.bind fun x hx => .pure (hg x hx)

theorem Makes.behind_pure {p : Parse α} {g : α → β} (hp : Shrinks p) (hg : ∀ x, Q (g x)) :
    Makes Q (p >>= fun x => Pure.pure (g x)) := .behind hp fun x => .pure (hg x)

theorem Makes.ite {c : Prop} [Decidable c] {p q : Parse α} (hp : Makes P p) (hq : Makes P q) :
    Makes P (if c then p else q) := by
  by_cases h : c
  · rwa [if_pos h]
  · rwa [if_neg h]

theorem makes_name : Makes (fun s => OperationClasses.isName s) name := by
  intro ts s rest hts h
  obtain ⟨t, ht, rfl⟩ := name_eq_ok h
  exact ⟨hts t List.mem_cons_self s ht, hts.of_suffix (List.suffix_cons t rest)⟩

theorem makes_fragmentName : Makes (fun s => OperationClasses.isName s) fragmentName :=
  .behind shrinks_current fun _ => .ite (.unexpected _) makes_name

theorem makes_variableName : Makes (fun s => OperationClasses.isName s) (variableName false) :=
  .behind shrinks_current fun _ => .behind (reads_expectMark .dollar).shrinks fun _ => makes_name

theorem makes_type : Makes TypeRef.Written type := by
  intro ts t rest hts h
  obtain ⟨used, rfl, hused⟩ := TypeRef.exists_parsedFrom h
  exact ⟨hused.written fun u hu => hts u (List.mem_append_left _ hu),
    hts.of_suffix (List.suffix_append used rest)⟩

theorem makes_itemsUntil (close : Mark) {item : Parse α} (h : Makes P item) (n : ℕ) :
    Makes (∀ x ∈ ·, P x) (itemsUntil close item n) := by
  induction n with
  | zero => exact .behind shrinks_current fun _ => .unexpected _
  | succ n ih =>
    refine .behind (shrinks_skipMark close) fun _ => .ite (.pure (by simp)) ?_
    exact h.bind fun _ hx => ih.bind_pure fun _ hxs => List.forall_mem_cons.mpr ⟨hx, hxs⟩

theorem makes_bracketed (opening close : Mark) {item : Parse α} (h : Makes P item) (n : ℕ) :
    Makes (∀ x ∈ ·, P x) (bracketed opening close n item) :=
  .behind (reads_expectMark opening).shrinks fun _ => h.bind fun _ hx =>
    (makes_itemsUntil close h n).bind_pure fun _ hxs => List.forall_mem_cons.mpr ⟨hx, hxs⟩

theorem makes_optionalBracketed (opening close : Mark) {item : Parse α} (h : Makes P item)
    (n : ℕ) : Makes (∀ x ∈ ·, P x) (optionalBracketed opening close n item) :=
  .behind (shrinks_current.bind_pure _) fun _ =>
    .ite (makes_bracketed opening close h n) (.pure (by simp))

theorem makes_fieldBehind (room : ℕ) {nested : Parse (List Selection)}
    (h : Makes (∀ s ∈ ·, s.WellNamed) nested) {alias? : Option String} {fieldName : String}
    (hkey : OperationClasses.isName (alias?.getD fieldName)) (offset : ℕ) :
    Makes Selection.WellNamed (fieldBehind room nested alias? fieldName offset) := by
  refine .behind (reads_arguments false room).shrinks fun args => ?_
  refine .behind (reads_directivesWithin false room).shrinks fun ds => ?_
  refine .behind (shrinks_current.bind_pure _) fun _ => .ite ?_ ?_
  · have hinner : Makes (∀ inner ∈ ·, ∀ s ∈ inner, s.WellNamed) (some <$> nested) :=
      h.bind_pure fun inner hinner => by simpa using hinner
    exact hinner.bind_pure fun inner? hinner =>
      Selection.wellNamed_field hkey args ds hinner offset
  · exact .pure (Selection.wellNamed_field hkey args ds (by simp) offset)

theorem makes_inlineBehind (room : ℕ) {nested : Parse (List Selection)}
    (h : Makes (∀ s ∈ ·, s.WellNamed) nested) (condition? : Option String) :
    Makes Selection.WellNamed (inlineBehind room nested condition?) :=
  .behind (reads_directivesWithin false room).shrinks fun ds =>
    h.bind_pure fun _ hinner => Selection.wellNamed_inline hinner condition? ds

/-- A selection, given that those of its own selection set are well named. -/
theorem makes_selection (room : ℕ) {nested : Parse (List Selection)}
    (h : Makes (∀ s ∈ ·, s.WellNamed) nested) :
    Makes Selection.WellNamed (selection room nested) := by
  refine .behind shrinks_current fun place => .behind (shrinks_skipMark .spread) fun _ => .ite ?_ ?_
  · refine .behind (shrinks_skipKeyword "on") fun _ => .ite ?_ ?_
    · exact .behind reads_name.shrinks fun condition => makes_inlineBehind room h (some condition)
    · refine .behind (hasName_eq_look ▸ shrinks_current.bind_pure _) fun _ => .ite ?_ ?_
      · exact makes_fragmentName.bind fun s hs =>
          .behind_pure (reads_directivesWithin false room).shrinks fun ds =>
            Selection.wellNamed_spread hs ds place.start
      · exact makes_inlineBehind room h none
  · refine makes_name.bind fun first hfirst => ?_
    refine .behind (shrinks_skipMark .colon) fun _ => .ite ?_ ?_
    · exact .behind reads_name.shrinks fun fieldName =>
        @makes_fieldBehind room _ h (some first) fieldName hfirst place.start
    · exact @makes_fieldBehind room _ h none first hfirst place.start

theorem makes_selectionSet (room : ℕ) : Makes (∀ s ∈ ·, s.WellNamed) (selectionSet room) := by
  induction room with
  | zero => exact .behind shrinks_current fun _ => .fail _ _
  | succ room ih =>
    exact .behind shrinks_bound fun n =>
      makes_bracketed .openBrace .closeBrace (makes_selection room ih) n

theorem makes_variableDefinition : Makes VariableDefinition.WellNamed variableDefinition :=
  .behind reads_description.shrinks fun _ => makes_variableName.bind fun _ hname =>
    .behind (reads_expectMark .colon).shrinks fun _ => makes_type.bind fun _ htype =>
    .behind reads_initial.shrinks fun _ =>
    .behind_pure (shrinks_directives true) fun _ => ⟨hname, htype⟩

theorem makes_operationBehind (about : Option Description) (kind : OperationKind)
    {label : Option String} (hlabel : ∀ s, label = some s → OperationClasses.isName s) :
    Makes Operation.WellNamed (operationBehind about kind label) :=
  .behind shrinks_bound fun n =>
    (makes_optionalBracketed .openParen .closeParen makes_variableDefinition n).bind fun _ hvs =>
    .behind (shrinks_directives false) fun _ =>
    (makes_selectionSet levelLimit).bind_pure fun _ hss => ⟨hlabel, hvs, hss⟩

theorem makes_operation : Makes Operation.WellNamed operation := by
  refine .behind (shrinks_current.bind_pure _) fun _ => .ite ?_ ?_
  · exact (makes_selectionSet levelLimit).bind_pure fun _ hss => ⟨by simp, by simp, hss⟩
  · refine .behind reads_description.shrinks fun about => ?_
    refine .behind reads_operationKind.shrinks fun kind => ?_
    refine .behind (hasName_eq_look ▸ shrinks_current.bind_pure _) fun _ => .ite ?_ ?_
    · have hlabel : Makes (∀ s, · = some s → OperationClasses.isName s) (some <$> name) :=
        makes_name.bind_pure fun s hs => by simpa using hs
      exact hlabel.bind fun label hlabel => makes_operationBehind about kind hlabel
    · exact makes_operationBehind about kind (by simp)

theorem makes_fragment : Makes Fragment.WellNamed fragment :=
  .behind reads_description.shrinks fun _ => .behind (reads_expectKeyword "fragment").shrinks fun _ =>
    makes_fragmentName.bind fun _ hname => .behind (reads_expectKeyword "on").shrinks fun _ =>
    .behind reads_name.shrinks fun _ => .behind (shrinks_directives false) fun _ =>
    (makes_selectionSet levelLimit).bind_pure fun _ hss => ⟨hname, hss⟩

theorem makes_inputValue : Makes InputValueDefinition.WellNamed inputValue :=
  .behind reads_description.shrinks fun _ => makes_name.bind fun _ hname =>
    .behind (reads_expectMark .colon).shrinks fun _ => makes_type.bind fun _ htype =>
    .behind reads_initial.shrinks fun _ =>
    .behind_pure (shrinks_directives true) fun _ => ⟨hname, htype⟩

theorem makes_fieldDefinition : Makes FieldDefinition.WellNamed fieldDefinition :=
  .behind reads_description.shrinks fun _ => makes_name.bind fun _ hname =>
    .behind shrinks_bound fun _ =>
    .behind (shrinks_optionalBracketed _ _ shrinks_inputValue _) fun _ =>
    .behind (reads_expectMark .colon).shrinks fun _ => makes_type.bind fun _ htype =>
    .behind_pure (shrinks_directives true) fun _ => ⟨hname, htype⟩

theorem makes_enumValue :
    Makes (fun v : EnumValueDefinition => OperationClasses.isName v.name) enumValue := by
  unfold enumValue
  refine .behind reads_description.shrinks fun _ => .behind shrinks_current fun t => ?_
  split
  · exact .fail _ _
  · exact .fail _ _
  · exact .fail _ _
  · exact makes_name.bind fun _ hname => .behind_pure (shrinks_directives true) fun _ => hname

theorem makes_fields : Makes (∀ f ∈ ·, f.WellNamed) fields :=
  .behind shrinks_bound fun n => makes_optionalBracketed _ _ makes_fieldDefinition n

/-- What stands behind the keyword of a type. -/
theorem makes_typeBody (kind : TypeKind) :
    Makes (fun p : String × List Directive × TypeBody =>
      OperationClasses.isName p.1 ∧ p.2.2.WellNamed) (typeBody kind) := by
  refine makes_name.bind fun s hs => ?_
  cases kind with
  | scalar => exact .behind_pure (shrinks_directives true) fun _ => ⟨hs, trivial⟩
  | object =>
    exact .behind shrinks_interfaces fun _ => .behind (shrinks_directives true) fun _ =>
      makes_fields.bind_pure fun _ hfs => ⟨hs, hfs⟩
  | interface =>
    exact .behind shrinks_interfaces fun _ => .behind (shrinks_directives true) fun _ =>
      makes_fields.bind_pure fun _ hfs => ⟨hs, hfs⟩
  | union =>
    exact .behind (shrinks_directives true) fun _ =>
      .behind_pure shrinks_unionMembers fun _ => ⟨hs, trivial⟩
  | enum =>
    exact .behind (shrinks_directives true) fun _ => .behind shrinks_bound fun n =>
      (makes_optionalBracketed _ _ makes_enumValue n).bind_pure fun _ hvs => ⟨hs, hvs⟩
  | input =>
    exact .behind (shrinks_directives true) fun _ => .behind shrinks_bound fun n =>
      (makes_optionalBracketed _ _ makes_inputValue n).bind_pure fun _ hfs => ⟨hs, hfs⟩

theorem makes_typeDefinition (kind : TypeKind) :
    Makes TypeDefinition.WellNamed (typeDefinition kind) :=
  .behind reads_description.shrinks fun _ => .behind (reads_expectKeyword _).shrinks fun _ =>
    (makes_typeBody kind).bind fun _ hbody => .pure ⟨hbody.1, hbody.2⟩

theorem makes_extension :
    Makes (fun d => (Definition.typeSystem d none).WellNamed) extension := by
  refine .behind shrinks_second fun keyword => .ite ?_ ?_
  · refine .behind shrinks_advance fun _ => .behind shrinks_advance fun _ => ?_
    refine .behind (shrinks_directives true) fun _ => .behind shrinks_bound fun _ => ?_
    refine .behind (shrinks_optionalBracketed _ _ shrinks_operationType _) fun _ => .ite ?_ ?_
    · exact .behind shrinks_current fun _ => .behind (.unexpected _) fun _ => .pure trivial
    · exact .pure trivial
  · split
    · refine .behind shrinks_advance fun _ => .behind shrinks_advance fun _ => ?_
      refine (makes_typeBody _).bind fun p hbody => .ite ?_ ?_
      · exact .behind shrinks_current fun _ =>
          .behind (.unexpected _) fun _ => .pure ⟨hbody.1, hbody.2⟩
      · exact .pure ⟨hbody.1, hbody.2⟩
    · exact .unexpected _

theorem makes_definitionOf (described : Bool) (first place : Token) (word : String) :
    Makes Definition.WellNamed (definitionOf described first place word) := by
  refine .ite (.behind_pure shrinks_schemaDefinition fun _ => trivial) <|
    .ite (.behind_pure shrinks_directiveDefinition fun _ => trivial) ?_
  split
  · exact (makes_typeDefinition _).bind_pure fun _ hd => hd
  · exact .ite (makes_operation.bind_pure fun _ ho => ho) <|
      .ite (makes_fragment.bind_pure fun _ hf => hf) <| .ite (.fail _ _) <|
      .ite (makes_extension.bind_pure fun _ hd => hd) (.unexpected _)

theorem makes_definition : Makes Definition.WellNamed definition := by
  refine .behind shrinks_current fun first => ?_
  split
  case h_2 | h_3 =>
    refine .behind shrinks_second fun keyword => ?_
    split
    · exact .fail _ _
    · exact makes_definitionOf _ _ _ _
    · exact .unexpected _
  · exact makes_operation.bind_pure fun _ ho => ho
  · exact makes_definitionOf _ _ _ _
  · exact .unexpected _

end Parse

/-- A document that was read from a text is well named. -/
theorem wellNamed_of_parse {text : String} {doc : Document} (h : Document.parse text = .ok doc) :
    ∀ d ∈ doc, d.WellNamed := by
  obtain ⟨ds, rest, hds, rfl⟩ := parse_eq_ok_iff.mp h
  intro d hd
  obtain ⟨y, hy, rfl⟩ := List.mem_map.mp hd
  obtain ⟨front, used, behind, d, htokens, hread, rfl⟩ := Parse.mem_of_definitions hds hy
  have htidy : Parse.Tidy (used ++ behind) := by
    refine (Parse.tidy_tokens text).of_suffix ⟨front, ?_⟩
    rw [htokens, List.append_assoc]
  exact Definition.wellNamed_withSource.mpr (Parse.makes_definition _ d behind htidy hread).1

end OperationClasses.Syntax
