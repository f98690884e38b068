import Mathlib.Data.List.Flatten
import Mathlib.Data.List.Nodup
import Mathlib.Data.List.Pairwise
import OperationClasses.Proofs.Schema.Building

/-!
# Names of fields

The rules note the fields of every type that is defined or extended, and a field that was noted
before is a fault. So where no fault is found, no type of the built schema has two fields of one
name, however many extensions it has.
-/
namespace OperationClasses.Schema

open Syntax

/-- The names of the fields that a type definition lists. -/
def bodyFieldNames : TypeBody → List String
  | .object _ fs | .interface _ fs => fs.map (·.name)
  | .input fs => fs.map (·.name)
  | .scalar | .union _ | .enum _ => []

/-- The fields that a type definition lists, each with the name of the type. -/
def fieldsOf (d : TypeDefinition) : List (String × String) :=
  (bodyFieldNames d.body).map (d.name, ·)

/-- The type that a definition defines or extends. -/
def definedType? : Definition → Option TypeDefinition
  | .typeSystem (.type d) _ => some d
  | _ => none

namespace Rules

variable {α β : Type} {x : Check α} {fields fields' : List (String × String)}

/-- If there is no problem after a step, there was none before it, and the step has noted fields
that were not noted before. -/
def Notes (x : Check α) (fields : List (String × String)) : Prop :=
  ∀ seen, (x.run seen).2.problems = [] → seen.problems = [] ∧
    (x.run seen).2.fields = fields.reverse ++ seen.fields ∧
    (seen.fields.Nodup → (x.run seen).2.fields.Nodup)

theorem notes_pure (a : α) : Notes (pure a) [] := fun _ h => ⟨h, rfl, id⟩

theorem Notes.bind {f : α → Check β} (hx : Notes x fields) (hf : ∀ a, Notes (f a) fields') :
    Notes (x >>= f) (fields ++ fields') := by
  intro seen h
  obtain ⟨hmiddle, hadded', hnodup'⟩ := hf (x.run seen).1 (x.run seen).2 h
  obtain ⟨hbefore, hadded, hnodup⟩ := hx seen hmiddle
  refine ⟨hbefore, ?_, hnodup' ∘ hnodup⟩
  rw [List.reverse_append, List.append_assoc, ← hadded]
  exact hadded'

/-- Steps that note nothing. -/
theorem Notes.andThen {f : α → Check β} (hx : Notes x []) (hf : ∀ a, Notes (f a) fields) :
    Notes (x >>= f) fields :=
  hx.bind hf

theorem notes_report (p : SchemaProblem) : Notes (report p) [] := fun _ h => nomatch h

theorem notes_modify {f : Seen → Seen} (hproblems : ∀ seen, (f seen).problems = seen.problems)
    (hfields : ∀ seen, (f seen).fields = seen.fields) : Notes (modify f : Check Unit) [] := by
  intro seen h
  change (f seen).problems = [] at h
  change seen.problems = [] ∧ (f seen).fields = seen.fields ∧ (_ → (f seen).fields.Nodup)
  rw [hfields]
  exact ⟨hproblems seen ▸ h, rfl, id⟩

theorem notes_get : Notes (get : Check Seen) [] := fun _ h => ⟨h, rfl, id⟩

theorem Notes.map (hx : Notes x fields) (f : α → β) : Notes (f <$> x) fields := hx

theorem notes_ite {c : Prop} [Decidable c] {y : Check α} (hx : Notes x fields)
    (hy : Notes y fields) : Notes (if c then x else y) fields := by
  split
  · exact hx
  · exact hy

theorem notes_forM {f : α → Check Unit} {g : α → List (String × String)} {as : List α}
    (h : ∀ a ∈ as, Notes (f a) (g a)) : Notes (as.forM f) (as.flatMap g) := by
  induction as with
  | nil => exact notes_pure ()
  | cons a as ih =>
    rw [List.forall_mem_cons] at h
    have hstep : (a :: as).forM f = (f a >>= fun _ => as.forM f) := rfl
    rw [hstep, List.flatMap_cons]
    exact h.1.bind fun _ => ih h.2

/-- Steps for each of several things that note nothing. -/
theorem notes_each {f : α → Check Unit} {as : List α} (h : ∀ a ∈ as, Notes (f a) []) :
    Notes (as.forM f) [] := by
  have hnone : as.flatMap (fun _ => ([] : List (String × String))) = [] := by simp
  exact hnone ▸ notes_forM h

theorem notes_foldlM {f : β → α → Check β} {as : List α} (h : ∀ b, ∀ a ∈ as, Notes (f b a) [])
    (b : β) : Notes (as.foldlM f b) [] := by
  induction as generalizing b with
  | nil => exact notes_pure b
  | cons a as ih =>
    rw [List.foldlM_cons]
    exact (h b a List.mem_cons_self).andThen fun b' =>
      ih (fun b a' ha => h b a' (List.mem_cons_of_mem a ha)) b'

theorem notes_option {f : α → Check Unit} (a? : Option α) (h : ∀ a, Notes (f a) []) :
    Notes (a?.forM f) [] := by
  cases a? with
  | none => exact notes_pure ()
  | some a => exact h a

mutual

theorem notes_value (v : Value) : Notes (value v) [] := by
  cases v with
  | list items => exact notes_values items
  | object fs => exact notes_objectFields [] fs
  | _ => exact notes_pure ()

theorem notes_values (vs : List Value) : Notes (values vs) [] := by
  cases vs with
  | nil => exact notes_pure ()
  | cons v vs => exact (notes_value v).andThen fun _ => notes_values vs

theorem notes_objectFields (known : List String) (fs : List (String × Value)) :
    Notes (objectFields known fs) [] := by
  cases fs with
  | nil => exact notes_pure ()
  | cons f fs =>
    obtain ⟨name, v⟩ := f
    rw [objectFields]
    have hrest : Notes (value v >>= fun _ => objectFields (name :: known) fs) [] :=
      (notes_value v).andThen fun _ => notes_objectFields (name :: known) fs
    exact notes_ite ((notes_report _).andThen fun _ => hrest) hrest

end

theorem notes_givenArguments (args : List Argument) : Notes (givenArguments args) [] :=
  notes_each fun _ _ => notes_report _

theorem notes_argumentValues (args : List Argument) : Notes (argumentValues args) [] :=
  notes_each fun a _ => notes_value a.value

theorem notes_directiveUse (c : Context) (location : String) (d : Directive) :
    Notes (directiveUse c location d) [] := by
  unfold directiveUse
  dsimp only
  cases c.directive? d.name with
  | none =>
    refine (notes_report _).andThen fun _ => (notes_givenArguments _).andThen fun _ => ?_
    exact (notes_argumentValues _).andThen fun _ => notes_pure ()
  | some facts =>
    have hknown : Notes (d.arguments.forM fun a =>
        if facts.arguments.contains a.name then pure ()
        else report (.unknownArgument a.name d.name (Suggestion.suggest a.name facts.arguments))) [] :=
      notes_each fun _ _ => notes_ite (notes_pure ()) (notes_report _)
    have hrequired : Notes (facts.required.forM fun p =>
        if d.arguments.any (·.name = p.1) then pure ()
        else report (.missingArgument d.name p.1 p.2)) [] :=
      notes_each fun _ _ => notes_ite (notes_pure ()) (notes_report _)
    have hrest := hknown.andThen fun _ => (notes_givenArguments d.arguments).andThen fun _ =>
      (notes_argumentValues d.arguments).andThen fun _ => hrequired
    exact notes_ite ((notes_report _).andThen fun _ => hrest) hrest

theorem notes_directiveUses (c : Context) (location : String) (ds : List Directive) :
    Notes (directiveUses c location ds) [] :=
  notes_each fun d _ => notes_directiveUse c location d

theorem notes_usedOnce (c : Context) (before : List String) (ds : List Directive) :
    Notes (usedOnce c before ds) [] := by
  refine notes_foldlM (fun seen d _ => ?_) before
  cases c.directive? d.name with
  | none => exact notes_pure seen
  | some facts =>
    refine notes_ite (notes_pure seen) (notes_ite ?_ (notes_pure (d.name :: seen)))
    exact (notes_report _).andThen fun _ => notes_pure seen

theorem notes_usedOnceHere (c : Context) (ds : List Directive) : Notes (usedOnceHere c ds) [] :=
  (notes_usedOnce c [] ds).map _

theorem notes_typeName (c : Context) (inSchema : Bool) (name : String) :
    Notes (typeName c inSchema name) [] :=
  notes_ite (notes_pure ())
    (notes_ite (notes_ite (notes_pure ()) (notes_report _)) (notes_report _))

theorem notes_typeRef (c : Context) (inSchema : Bool) (t : TypeRef) :
    Notes (typeRef c inSchema t) [] := by
  unfold typeRef
  cases t.name? with
  | none => exact notes_pure ()
  | some name => exact notes_typeName c inSchema name

mutual

theorem notes_selection (c : Context) (s : Syntax.Selection) : Notes (selection c s) [] := by
  cases s with
  | field alias? name args ds inner? =>
    rw [selection.eq_def]
    refine (notes_usedOnceHere c ds).andThen fun _ => (notes_givenArguments args).andThen fun _ => ?_
    refine (notes_argumentValues args).andThen fun _ => ?_
    refine (notes_directiveUses c "FIELD" ds).andThen fun _ => ?_
    cases inner? with
    | none => exact notes_pure ()
    | some inner => exact notes_selections c inner
  | spread name ds =>
    rw [selection]
    exact (notes_usedOnceHere c ds).andThen fun _ => notes_directiveUses c _ ds
  | inline condition? ds inner =>
    rw [selection]
    refine (notes_usedOnceHere c ds).andThen fun _ => ?_
    have hrest := (notes_directiveUses c "INLINE_FRAGMENT" ds).andThen fun _ =>
      notes_selections c inner
    cases condition? with
    | none => exact hrest
    | some name => exact (notes_typeName c false name).andThen fun _ => hrest

theorem notes_selections (c : Context) (ss : List Syntax.Selection) :
    Notes (selections c ss) [] := by
  cases ss with
  | nil => exact notes_pure ()
  | cons s rest => exact (notes_selection c s).andThen fun _ => notes_selections c rest

end

theorem notes_variableDefinition (c : Context) (v : VariableDefinition) :
    Notes (variableDefinition c v) [] := by
  refine (notes_usedOnceHere c v.directives).andThen fun _ => ?_
  refine (notes_typeRef c false v.type).andThen fun _ => ?_
  exact (notes_option v.default? notes_value).andThen fun _ => notes_directiveUses c _ v.directives

theorem notes_operation (c : Context) (o : Operation) : Notes (operation c o) [] := by
  refine (notes_usedOnceHere c o.directives).andThen fun _ => ?_
  refine (notes_each fun v _ => notes_variableDefinition c v).andThen fun _ => ?_
  exact (notes_directiveUses c _ o.directives).andThen fun _ => notes_selections c o.selections

theorem notes_fragment (c : Context) (f : Fragment) : Notes (fragment c f) [] := by
  refine (notes_usedOnceHere c f.directives).andThen fun _ => ?_
  refine (notes_typeName c false f.condition).andThen fun _ => ?_
  exact (notes_directiveUses c _ f.directives).andThen fun _ => notes_selections c f.selections

theorem notes_inputValue (c : Context) (location : String) (v : InputValueDefinition) :
    Notes (inputValue c location v) [] := by
  refine (notes_usedOnceHere c v.directives).andThen fun _ => ?_
  refine (notes_typeRef c true v.type).andThen fun _ => ?_
  exact (notes_option v.default? notes_value).andThen fun _ => notes_directiveUses c _ v.directives

theorem notes_fieldDefinition (c : Context) (f : FieldDefinition) :
    Notes (fieldDefinition c f) [] := by
  refine (notes_usedOnceHere c f.directives).andThen fun _ => ?_
  refine (notes_each fun a _ => notes_inputValue c _ a).andThen fun _ => ?_
  exact (notes_typeRef c true f.type).andThen fun _ => notes_directiveUses c _ f.directives

theorem notes_enumValue (c : Context) (v : EnumValueDefinition) : Notes (enumValue c v) [] :=
  (notes_usedOnceHere c v.directives).andThen fun _ => notes_directiveUses c _ v.directives

/-- Something is noted elsewhere unless it was noted before. -/
theorem notes_elsewhere {test : Seen → Bool} (p : SchemaProblem) {f : Seen → Seen}
    (hproblems : ∀ seen, (f seen).problems = seen.problems)
    (hfields : ∀ seen, (f seen).fields = seen.fields) :
    Notes (do if test (← get) then report p else modify f) [] :=
  notes_get.andThen fun _ => notes_ite (notes_report p) (notes_modify hproblems hfields)

/-- The names of a type's fields are noted; one that was noted before is a problem. -/
theorem notes_fieldNames (type : String) (names : List String) :
    Notes (fieldNames type names) (names.map (type, ·)) := by
  have hpairs : names.map (type, ·) = names.flatMap fun n => [(type, n)] :=
    List.map_eq_flatMap
  rw [hpairs]
  refine notes_forM fun n _ seen => ?_
  have hrun : ∀ f : Seen → Check Unit, (get >>= f).run seen = (f seen).run seen := fun _ => rfl
  rw [hrun]
  by_cases hmem : (type, n) ∈ seen.fields
  · rw [if_pos (by simpa using hmem)]
    intro h
    cases h
  · rw [if_neg (by simpa using hmem)]
    intro h
    exact ⟨h, rfl, fun hnodup => List.nodup_cons.mpr ⟨hmem, hnodup⟩⟩

theorem notes_argumentNames (owner : String) (args : List InputValueDefinition) :
    Notes (argumentNames owner args) [] :=
  notes_each fun _ _ => notes_report _

theorem notes_typeNamesOnce (d : TypeDefinition) : Notes (typeNamesOnce d) (fieldsOf d) := by
  have hlisted : ∀ fs : List FieldDefinition, Notes (do
      fieldNames d.name (fs.map (·.name))
      fs.forM fun f => argumentNames (d.name ++ "." ++ f.name) f.arguments)
      ((fs.map (·.name)).map (d.name, ·) ++ []) := fun fs =>
    (notes_fieldNames d.name _).bind fun _ => notes_each fun f _ => notes_argumentNames _ f.arguments
  unfold typeNamesOnce
  extract_lets members
  have hmembers : ∀ u, Notes (members u) (fieldsOf d) := by
    intro u
    unfold fieldsOf members
    cases d.body with
    | scalar => exact notes_pure ()
    | union ms => exact notes_pure ()
    | enum vs => exact notes_each fun v _ => notes_elsewhere _ (fun _ => rfl) fun _ => rfl
    | object is fs => simpa [bodyFieldNames] using hlisted fs
    | interface is fs => simpa [bodyFieldNames] using hlisted fs
    | input fs => exact notes_fieldNames d.name _
  refine notes_ite (notes_get.andThen fun _ => notes_ite ?_ ?_) (hmembers ())
  · exact (notes_report _).andThen hmembers
  · refine Notes.andThen ?_ hmembers
    exact notes_modify (fun _ => rfl) fun _ => rfl

theorem notes_extensionTarget (c : Context) (d : TypeDefinition) :
    Notes (extensionTarget c d) [] := by
  refine notes_ite (notes_pure ()) ?_
  cases c.types.reverse.lookup d.name with
  | none => exact notes_report _
  | some kind => exact notes_ite (notes_pure ()) (notes_report _)

theorem notes_typeDefinition (c : Context) (d : TypeDefinition) :
    Notes (typeDefinition c d) (fieldsOf d) := by
  have hnames : ∀ names : List String, Notes (names.forM (typeName c true)) [] := fun names =>
    notes_each fun name _ => notes_typeName c true name
  have hfields : ∀ fs : List FieldDefinition, Notes (fs.forM (fieldDefinition c)) [] := fun fs =>
    notes_each fun f _ => notes_fieldDefinition c f
  unfold typeDefinition
  rw [← List.append_nil (fieldsOf d)]
  refine (notes_typeNamesOnce d).bind fun _ => ?_
  extract_lets members rest
  have hmembers : ∀ u, Notes (members u) [] := by
    intro u
    unfold members
    refine (notes_directiveUses c _ d.directives).andThen fun _ => ?_
    cases d.body with
    | scalar => exact notes_pure ()
    | object is fs => exact hfields fs
    | interface is fs => exact hfields fs
    | union ms => exact hnames ms
    | enum vs => exact notes_each fun v _ => notes_enumValue c v
    | input fs => exact notes_each fun f _ => notes_inputValue c _ f
  have hrest : ∀ u, Notes (rest u) [] := by
    intro u
    unfold rest
    refine (notes_extensionTarget c d).andThen fun _ => ?_
    cases d.body with
    | object is fs => exact (hnames is).andThen hmembers
    | interface is fs => exact (hnames is).andThen hmembers
    | _ => exact hmembers ()
  refine notes_ite (notes_get.andThen fun _ => ?_) (hrest ())
  refine (notes_usedOnce c _ d.directives).andThen fun _ => Notes.andThen ?_ hrest
  exact notes_modify (fun _ => rfl) fun _ => rfl

theorem notes_schemaDefinition (c : Context) (d : SchemaDefinition) :
    Notes (schemaDefinition c d) [] := by
  unfold schemaDefinition
  extract_lets rest count
  have hrest : ∀ u, Notes (rest u) [] := by
    intro u
    unfold rest
    refine Notes.andThen (notes_each fun p _ => ?_) fun _ => ?_
    · exact notes_elsewhere _ (fun _ => rfl) fun _ => rfl
    refine notes_get.andThen fun _ => (notes_usedOnce c _ d.directives).andThen fun _ => ?_
    refine Notes.andThen ?_ fun _ => ?_
    · exact notes_modify (fun _ => rfl) fun _ => rfl
    refine (notes_directiveUses c _ d.directives).andThen fun _ => ?_
    exact notes_each fun p _ => notes_typeName c true p.2
  have hcount : ∀ u, Notes (count u) [] := by
    intro u
    refine Notes.andThen ?_ hrest
    exact notes_modify (fun _ => rfl) fun _ => rfl
  refine notes_ite (notes_get.andThen fun _ => notes_ite ?_ (hcount ())) (hrest ())
  exact (notes_report _).andThen hcount

theorem notes_directiveDefinition (c : Context) (d : DirectiveDefinition) :
    Notes (directiveDefinition c d) [] := by
  refine (notes_argumentNames _ d.arguments).andThen fun _ => ?_
  have hrest : Notes (d.arguments.forM (inputValue c "ARGUMENT_DEFINITION")) [] :=
    notes_each fun a _ => notes_inputValue c _ a
  refine notes_get.andThen fun _ => notes_ite ((notes_report _).andThen fun _ => hrest) ?_
  refine Notes.andThen ?_ fun _ => hrest
  exact notes_modify (fun _ => rfl) fun _ => rfl

/-- The fields that a definition lists, if it defines or extends a type. -/
def fieldsMet (d : Definition) : List (String × String) :=
  ((definedType? d).map fieldsOf).getD []

theorem notes_definition (c : Context) (d : Definition) : Notes (definition c d) (fieldsMet d) := by
  cases d with
  | operation o => exact notes_operation c o
  | fragment f => exact notes_fragment c f
  | typeSystem d source? =>
    cases d with
    | schema d => exact notes_schemaDefinition c d
    | type d => exact notes_typeDefinition c d
    | directive d => exact notes_directiveDefinition c d

/-- In a document without problems, no type has a field twice. -/
theorem nodup_fieldsMet {doc : Document} (h : problems doc = []) : (doc.flatMap fieldsMet).Nodup := by
  have hnotes : Notes (doc.forM (definition (contextOf doc))) (doc.flatMap fieldsMet) :=
    notes_forM fun d _ => notes_definition (contextOf doc) d
  have hproblems : ((doc.forM (definition (contextOf doc))).run {}).2.problems = [] := by
    simpa [problems] using h
  obtain ⟨-, hfields, hnodup⟩ := hnotes {} hproblems
  have hreverse := hnodup List.nodup_nil
  rw [hfields, List.append_nil] at hreverse
  exact List.nodup_reverse.mp hreverse

end Rules

/-- Only an extension of the same kind adds fields. -/
theorem sublist_bodyFieldNames_extendBody (body more : TypeBody) :
    (bodyFieldNames (Build.extendBody body more)).Sublist
      (bodyFieldNames body ++ bodyFieldNames more) := by
  cases body <;> cases more <;> simp [Build.extendBody, bodyFieldNames]

theorem sublist_bodyFieldNames_merged (exts : List TypeDefinition) (body : TypeBody) :
    (bodyFieldNames (exts.foldl (fun b e => Build.extendBody b e.body) body)).Sublist
      (bodyFieldNames body ++ exts.flatMap fun e => bodyFieldNames e.body) := by
  induction exts generalizing body with
  | nil => simp
  | cons e exts ih =>
    rw [List.foldl_cons, List.flatMap_cons, ← List.append_assoc]
    exact (ih _).trans ((sublist_bodyFieldNames_extendBody body e.body).append_right _)

theorem mem_typeDefinitions {doc : Document} {d : TypeDefinition}
    (h : d ∈ Build.typeDefinitions doc) :
    d ∈ doc.filterMap definedType? ∧ d.isExtension = false := by
  obtain ⟨x, hx, hd⟩ := List.mem_filterMap.mp h
  split at hd
  · next t source? =>
    split at hd
    · cases hd
    · next hproper =>
      obtain rfl := Option.some.inj hd
      simp only [Bool.or_eq_true, not_or, Bool.not_eq_true] at hproper
      exact ⟨List.mem_filterMap.mpr ⟨_, hx, rfl⟩, hproper.1⟩
  · cases hd

theorem extensions_eq (doc : Document) (name : String) :
    Build.extensions doc name =
      (doc.filterMap definedType?).filter fun t => t.isExtension && t.name = name := by
  rw [Build.extensions, List.filter_filterMap]
  refine List.filterMap_congr fun x _ => ?_
  cases x with
  | typeSystem d source? => cases d <;> simp [definedType?, Option.filter_some]
  | _ => rfl

theorem flatMap_fieldsMet (doc : Document) :
    doc.flatMap Rules.fieldsMet = (doc.filterMap definedType?).flatMap fieldsOf := by
  induction doc with
  | nil => rfl
  | cons d doc ih =>
    rw [List.flatMap_cons, List.filterMap_cons, ih]
    cases hd : definedType? d <;> simp [Rules.fieldsMet, hd]

/-- In a document without problems, a type with its extensions has no field twice. -/
theorem nodup_bodyFieldNames_merged {doc : Document} (h : Rules.problems doc = [])
    {d : TypeDefinition} (hd : d ∈ Build.typeDefinitions doc) :
    (bodyFieldNames (Build.merged doc d).body).Nodup := by
  obtain ⟨hmem, hproper⟩ := mem_typeDefinitions hd
  have hall : ((doc.filterMap definedType?).flatMap fieldsOf).Nodup := by
    have hmet := Rules.nodup_fieldsMet h
    rwa [flatMap_fieldsMet] at hmet
  have hpairs : ((d :: Build.extensions doc d.name).flatMap fieldsOf).Nodup := by
    obtain ⟨heach, hdisjoint⟩ := List.nodup_flatMap.mp hall
    have hsub : (Build.extensions doc d.name).Sublist (doc.filterMap definedType?) := by
      rw [extensions_eq]
      exact List.filter_sublist
    rw [List.flatMap_cons, List.nodup_append']
    refine ⟨heach d hmem, hall.sublist (hsub.flatMap fieldsOf), ?_⟩
    have hsymm : Std.Symm (Function.onFun List.Disjoint fieldsOf) := ⟨fun _ _ h _ hx hy => h hy hx⟩
    intro field hfield hextended
    obtain ⟨e, he, hlisted⟩ := List.mem_flatMap.mp hextended
    have hne : d ≠ e := by
      rintro rfl
      rw [extensions_eq, List.mem_filter] at he
      simp [hproper] at he
    exact hdisjoint.forall hmem (hsub.subset he) hne hfield hlisted
  have hnames : (d :: Build.extensions doc d.name).flatMap fieldsOf =
      (bodyFieldNames d.body ++
        (Build.extensions doc d.name).flatMap fun e => bodyFieldNames e.body).map (d.name, ·) := by
    rw [List.flatMap_cons, List.map_append, List.map_flatMap]
    refine congrArg _ (List.flatMap_congr fun e he => ?_)
    rw [extensions_eq, List.mem_filter] at he
    have hname : e.name = d.name := by simpa using (Bool.and_eq_true_iff.mp he.2).2
    rw [fieldsOf, hname]
  rw [hnames] at hpairs
  exact (hpairs.of_map).sublist (sublist_bodyFieldNames_merged _ d.body)

/-- No input type of a built schema has two fields of one name. -/
theorem nodup_inputFields_of_build {text : String} {doc : Document} {s : Schema}
    (h : build text doc = .ok s) : ∀ d ∈ s.types, (d.inputFields.map (·.name)).Nodup := by
  have hbuilt := build_eq_ok_iff.mp h
  intro d hd
  rw [hbuilt.types] at hd
  obtain ⟨definition, hdefinition, rfl⟩ := List.mem_map.mp hd
  have hnodup := nodup_bodyFieldNames_merged hbuilt.problems hdefinition
  unfold TypeDefinition.inputFields
  split
  · next fs hfs => simpa [hfs, bodyFieldNames] using hnodup
  · exact List.nodup_nil

end OperationClasses.Schema
