import Mathlib
import OperationClasses.Proofs.Generation.Contribution
import OperationClasses.Proofs.Payload.Text
import OperationClasses.Proofs.Syntax.WellNamed

/-!
# Generating from a sent text

The text that is sent for an operation holds all that its classes are made of: generating from
this text gives the same classes and the same text again.
-/
namespace OperationClasses.Payload

open Syntax Selection

/-- The fragments that selections use: each of them once, in the order of their first use. -/
structure InFirstUse (fragments : Fragments) (selections : List Syntax.Selection)
    (used : List Fragment) : Prop where
  defined : ∀ f ∈ used, fragments.find? f.name = some f
  once : (used.map (·.name)).Nodup
  reached : ∀ name, name ∈ used.map (·.name) ↔ Uses fragments selections name
  order : used.map (·.name) = (readingOrder fragments selections).eraseDups

theorem inFirstUse_usedDefinitions (fragments : Fragments) (selections : List Syntax.Selection) :
    InFirstUse fragments selections (usedDefinitions fragments selections) where
  defined := fun _ hf => (mem_usedDefinitions.mp hf).2
  once := by
    rw [map_name_usedDefinitions]
    exact nodup_usedFragments fragments selections
  reached := by
    rw [map_name_usedDefinitions]
    exact fun name => mem_usedFragments
  order := by
    rw [map_name_usedDefinitions]
    exact usedFragments_eq fragments selections

/-- The fragments of a sent text carry what its operation meets. -/
theorem carries_of_unlocated {fragments : Fragments} {selections : List Syntax.Selection}
    {used : List Fragment} (h : used.map Fragment.unlocated =
      (usedDefinitions fragments selections).map Fragment.unlocated) :
    Carries (used.map Fragment.unlocated) fragments selections := by
  rw [h]
  exact carries_usedDefinitions fragments selections

theorem usedDefinitions_carried {carried fragments : Fragments}
    {selections : List Syntax.Selection} (hc : Carries carried fragments selections) :
    usedDefinitions carried (Selection.unlocatedAll selections) =
      (usedDefinitions fragments selections).map Fragment.unlocated := by
  rw [usedDefinitions, usedDefinitions, usedFragments_carried hc, List.map_filterMap]
  exact List.filterMap_congr fun name hname => hc name (mem_usedFragments.mp hname).1

theorem definition_text_of_unlocated {d d' : Definition} (h : d'.unlocated = d.unlocated)
    (hsource : d.source?.isSome) : d'.text = d.text := by
  have hsame : d'.source? = d.source? := by
    rw [← Definition.source?_unlocated d', h, Definition.source?_unlocated]
  obtain ⟨s, hs⟩ := Option.isSome_iff_exists.mp hsource
  rw [Definition.text, Definition.text, hsame, hs, Option.getD_some, Option.getD_some]

theorem map_text_of_unlocated {ds ds' : List Definition}
    (h : ds'.map Definition.unlocated = ds.map Definition.unlocated)
    (hsource : ∀ d ∈ ds, d.source?.isSome) :
    ds'.map Definition.text = ds.map Definition.text := by
  induction ds' generalizing ds with
  | nil =>
    obtain rfl : ds = [] := by simpa using h.symm
    rfl
  | cons d' ds' ih =>
    cases ds with
    | nil => simp at h
    | cons d ds =>
      obtain ⟨hd, hds⟩ := List.cons.inj h
      rw [List.map_cons, List.map_cons, definition_text_of_unlocated hd (hsource d (by simp)),
        ih hds fun x hx => hsource x (List.mem_cons_of_mem d hx)]

/-- The same definitions wherever they stand make the same text. -/
theorem text_of_carried {carried fragments fragments' : Fragments} {o o' : Operation}
    (hc : Carries carried fragments o.selections)
    (hc' : Carries carried fragments' o'.selections) (ho : o'.unlocated = o.unlocated)
    (hsource : ∀ d ∈ Definition.operation o ::
      (usedDefinitions fragments o.selections).map .fragment, d.source?.isSome) :
    text o' fragments' = text o fragments := by
  have hselections : Selection.unlocatedAll o'.selections = Selection.unlocatedAll o.selections :=
    congrArg (fun o : Operation => o.selections) ho
  have hused : (usedDefinitions fragments' o'.selections).map Fragment.unlocated =
      (usedDefinitions fragments o.selections).map Fragment.unlocated := by
    rw [← usedDefinitions_carried hc', hselections, usedDefinitions_carried hc]
  have hdefinitions : (Definition.operation o' ::
      (usedDefinitions fragments' o'.selections).map .fragment).map Definition.unlocated =
        (Definition.operation o ::
          (usedDefinitions fragments o.selections).map .fragment).map Definition.unlocated := by
    have hfragments := congrArg (List.map Definition.fragment) hused
    rw [List.map_map, List.map_map] at hfragments
    rw [List.map_cons, List.map_cons, List.map_map, List.map_map, Definition.unlocated, ho]
    exact congrArg _ hfragments
  rw [text_eq_intercalate, text_eq_intercalate, map_text_of_unlocated hdefinitions hsource]

end OperationClasses.Payload

namespace OperationClasses

open Syntax Selection

/-- Forgets where the parts of a node stand. -/
def Node.unlocated : Node → Node
  | .field node => .field node.unlocated
  | .fragmentSpread node => .fragmentSpread node.unlocated

@[simp] theorem Node.kind_unlocated (n : Node) : n.unlocated.kind = n.kind := by
  cases n <;> rfl

mutual

/-- Forgets where the nodes of a typed field stand. -/
def TypedField.unlocated : TypedField → TypedField
  | .leaf node key type => .leaf node.unlocated key type
  | .object node key type children =>
    .object node.unlocated key type (TypedField.unlocatedAll children)

def TypedField.unlocatedAll : List TypedField → List TypedField
  | [] => []
  | f :: rest => f.unlocated :: TypedField.unlocatedAll rest

end

@[simp] theorem TypedField.key_unlocated (f : TypedField) : f.unlocated.key = f.key := by
  cases f <;> rfl

@[simp] theorem TypedField.map_key_unlocatedAll (fs : List TypedField) :
    (TypedField.unlocatedAll fs).map (·.key) = fs.map (·.key) := by
  induction fs with
  | nil => rfl
  | cons f rest ih =>
    rw [TypedField.unlocatedAll, List.map_cons, List.map_cons, ih, f.key_unlocated]

namespace Selection

mutual

theorem annotate_unlocated (s : Schema) (parent? : Option String) (m : Merged) :
    annotate s parent? m.unlocated = (annotate s parent? m).unlocated := by
  cases m with
  | leaf node condition? => rfl
  | object node condition? spreads members =>
    exact congrArg (TypedField.object _ _ _) (annotateAll_unlocatedAll s _ members)
  | undefinedSpread node => rfl

theorem annotateAll_unlocatedAll (s : Schema) (parent? : Option String) (ms : List Merged) :
    annotateAll s parent? (Merged.unlocatedAll ms) =
      TypedField.unlocatedAll (annotateAll s parent? ms) := by
  cases ms with
  | nil => rfl
  | cons m rest =>
    rw [Merged.unlocatedAll, annotateAll, annotateAll, annotate_unlocated s parent? m,
      annotateAll_unlocatedAll s parent? rest, TypedField.unlocatedAll]

end

mutual

theorem notes_unlocated (s : Schema) (parent? : Option String) (m : Merged) :
    notes s parent? m.unlocated = notes s parent? m := by
  cases m with
  | leaf node condition? => rfl
  | object node condition? spreads members =>
    exact congrArg (_ ++ ·) (notesAll_unlocatedAll s _ members)
  | undefinedSpread node => rfl

theorem notesAll_unlocatedAll (s : Schema) (parent? : Option String) (ms : List Merged) :
    notesAll s parent? (Merged.unlocatedAll ms) = notesAll s parent? ms := by
  cases ms with
  | nil => rfl
  | cons m rest =>
    rw [Merged.unlocatedAll, notesAll, notesAll, notes_unlocated s parent? m,
      notesAll_unlocatedAll s parent? rest]

end

end Selection

namespace Response

mutual

theorem enumsMet_unlocated (r : Resolver) (f : TypedField) :
    enumsMet r f.unlocated = enumsMet r f := by
  cases f with
  | leaf node key type => rfl
  | object node key type children => exact enumsMetAll_unlocatedAll r children

theorem enumsMetAll_unlocatedAll (r : Resolver) (fs : List TypedField) :
    enumsMetAll r (TypedField.unlocatedAll fs) = enumsMetAll r fs := by
  cases fs with
  | nil => rfl
  | cons f rest =>
    rw [TypedField.unlocatedAll, enumsMetAll, enumsMetAll, enumsMet_unlocated r f,
      enumsMetAll_unlocatedAll r rest]

end

mutual

theorem escapedNames_unlocated (r : Resolver) (f : TypedField) :
    escapedNames r f.unlocated = escapedNames r f := by
  cases f with
  | leaf node key type => rfl
  | object node key type children =>
    rw [TypedField.unlocated, escapedNames, escapedNames, TypedField.map_key_unlocatedAll,
      escapedNamesAll_unlocatedAll r children]

theorem escapedNamesAll_unlocatedAll (r : Resolver) (fs : List TypedField) :
    escapedNamesAll r (TypedField.unlocatedAll fs) = escapedNamesAll r fs := by
  cases fs with
  | nil => rfl
  | cons f rest =>
    rw [TypedField.unlocatedAll, escapedNamesAll, escapedNamesAll, escapedNames_unlocated r f,
      escapedNamesAll_unlocatedAll r rest]

end

theorem escapedInClass_unlocatedAll (r : Resolver) (fs : List TypedField) :
    escapedInClass r (TypedField.unlocatedAll fs) = escapedInClass r fs := by
  rw [escapedInClass, escapedInClass, TypedField.map_key_unlocatedAll,
    escapedNamesAll_unlocatedAll]

theorem takenNames_unlocatedAll (r : Resolver) (name : String) (fs : List TypedField) :
    takenNames r name (TypedField.unlocatedAll fs) = takenNames r name fs := by
  have hkeys := congrArg (List.map r.escape) (TypedField.map_key_unlocatedAll fs)
  rw [List.map_map, List.map_map] at hkeys
  exact congrArg (name :: ·) hkeys

theorem members_unlocatedAll (r : Resolver) (used : List String) (fs : List TypedField) :
    members r used (TypedField.unlocatedAll fs) = members r used fs := by
  fun_induction members r used fs with
  | case1 => rw [TypedField.unlocatedAll, members]
  | case2 used node key type rest others ih =>
    rw [TypedField.unlocatedAll, TypedField.unlocated, members, ih]
  | case3 used node key type children rest free name nested others hnested ih =>
    rw [TypedField.unlocatedAll, TypedField.unlocated, members, takenNames_unlocatedAll,
      Node.kind_unlocated, hnested, ih]

theorem ofOperation_unlocatedAll (r : Resolver) (fs : List TypedField) :
    ofOperation r (TypedField.unlocatedAll fs) = ofOperation r fs := by
  rw [ofOperation, ofOperation, classNamed, classNamed, takenNames_unlocatedAll,
    members_unlocatedAll]

end Response

end OperationClasses

namespace OperationClasses.Generator

open Syntax Selection

theorem expandVariables_unlocated (r : Resolver) (s : Schema) (vs : List VariableDefinition)
    (e : Input.Expansion) :
    Input.expandVariables r s (vs.map VariableDefinition.unlocated) e =
      Input.expandVariables r s vs e := by
  simp [Input.expandVariables, List.foldl_map, VariableDefinition.unlocated]

theorem request_unlocated (r : Resolver) (vs : List VariableDefinition) :
    Input.request r (vs.map VariableDefinition.unlocated) = Input.request r vs := by
  simp [Input.request, VariableDefinition.unlocated, Function.comp_def]

theorem stop?_unlocated (vs : List VariableDefinition) :
    Input.stop? (vs.map VariableDefinition.unlocated) = (Input.stop? vs).map fun stop =>
      { stop with before := stop.before.map VariableDefinition.unlocated } := by
  induction vs with
  | nil => rfl
  | cons v vs ih =>
    rw [List.map_cons, Input.stop?, Input.stop?, ih]
    simp only [VariableDefinition.unlocated]
    cases v.type.heartFault? with
    | some fault => rfl
    | none =>
      cases v.type.shownFault? with
      | some fault => rfl
      | none => cases Input.stop? vs <;> rfl

theorem requireInputs_unlocated (r : Resolver) (s : Schema) (vs : List VariableDefinition) :
    requireInputs r s (vs.map VariableDefinition.unlocated) = requireInputs r s vs := by
  unfold requireInputs
  rw [stop?_unlocated]
  cases Input.stop? vs with
  | none => simp only [Option.map_none, expandVariables_unlocated]
  | some stop => simp only [Option.map_some, expandVariables_unlocated]

theorem stop?_eq_none {vs : List VariableDefinition} (h : ∀ v ∈ vs, v.type.Written) :
    Input.stop? vs = none := by
  induction vs with
  | nil => rfl
  | cons v vs ih =>
    have hv := h v (by simp)
    rw [Input.stop?, hv.heartFault?_eq_none, hv.shownFault?_eq_none,
      ih fun w hw => h w (List.mem_cons_of_mem v hw)]
    rfl

theorem payload_of_source {o : Operation} (h : o.source?.isSome) (fragments : Fragments) :
    payload o fragments = .ok (Payload.text o fragments) := by
  obtain ⟨s, hs⟩ := Option.isSome_iff_exists.mp h
  exact payload_of_textFault? (by simp [Operation.textFault?, hs]) fragments

/-- The typed fields do not depend on the places of parts beyond their own nodes, nor on fragments
that are not used. -/
theorem typedFields_of_carried {carried fragments fragments' : Fragments} {o o' : Operation}
    (hc : Carries carried fragments o.selections)
    (hc' : Carries carried fragments' o'.selections)
    (hsame : Selection.unlocatedAll o'.selections = Selection.unlocatedAll o.selections)
    (hcycle : NoFieldCycle fragments o.selections) (s : Schema) (kind : OperationKind) :
    ∃ fields fields' log, typedFields s fragments kind o = .ok (fields, log) ∧
      typedFields s fragments' kind o' = .ok (fields', log) ∧
      TypedField.unlocatedAll fields' = TypedField.unlocatedAll fields := by
  obtain ⟨l, l', hl, hl', hlevels⟩ := merge?_of_carried hc hc' hsame hcycle
  obtain ⟨hspreads, hmembers⟩ := Level.mk.inj hlevels
  have hnotes : l'.notes s (rootName? s kind) = l.notes s (rootName? s kind) := by
    rw [Level.notes, Level.notes, hspreads, ← notesAll_unlocatedAll, hmembers,
      notesAll_unlocatedAll]
  refine ⟨_, _, _, typedFields_of_merge? hl kind, hnotes ▸ typedFields_of_merge? hl' kind, ?_⟩
  rw [Level.annotate, Level.annotate, ← annotateAll_unlocatedAll, hmembers,
    annotateAll_unlocatedAll]

/-- What an operation contributes does not depend on the places of its parts, nor on fragments
that it does not use. -/
theorem contribution_of_carried {carried fragments fragments' : Fragments} {o o' : Operation}
    (hc : Carries carried fragments o.selections)
    (hc' : Carries carried fragments' o'.selections) (ho : o'.unlocated = o.unlocated)
    (hsource : ∀ d ∈ Definition.operation o ::
      (Payload.usedDefinitions fragments o.selections).map .fragment, d.source?.isSome)
    (hcycle : NoFieldCycle fragments o.selections) (r : Resolver) (s : Schema) (path : String) :
    contribution r s fragments' path o' = contribution r s fragments path o := by
  have hparts := ho
  simp only [Operation.unlocated, Operation.mk.injEq] at hparts
  obtain ⟨-, hkind, hname, hvariables, -, hselections, ho'source⟩ := hparts
  have hosource : o.source?.isSome := hsource (.operation o) (by simp)
  have hkindOf : kindOf o' = kindOf o := by simp [kindOf, hkind]
  have hinputs : requireInputs r s o'.variables = requireInputs r s o.variables := by
    rw [← requireInputs_unlocated, hvariables, requireInputs_unlocated]
  have hexpansion : Input.expandVariables r s o'.variables {} =
      Input.expandVariables r s o.variables {} := by
    rw [← expandVariables_unlocated, hvariables, expandVariables_unlocated]
  have hrequest : Input.request r o'.variables = Input.request r o.variables := by
    rw [← request_unlocated, hvariables, request_unlocated]
  have hpayload : payload o' fragments' = payload o fragments := by
    rw [payload_of_source hosource, payload_of_source (ho'source ▸ hosource),
      Payload.text_of_carried hc hc' ho hsource]
  unfold contribution
  simp only [hkindOf, hname, hinputs, hexpansion, hrequest, hpayload]
  refine bind_congr fun kind => ?_
  obtain ⟨fields, fields', log, hfields, hfields', hsame⟩ :=
    typedFields_of_carried hc hc' hselections hcycle s kind
  have hescaped : Response.escapedInClass r fields' = Response.escapedInClass r fields := by
    rw [← Response.escapedInClass_unlocatedAll, hsame, Response.escapedInClass_unlocatedAll]
  have henums : Response.enumsMetAll r fields' = Response.enumsMetAll r fields := by
    rw [← Response.enumsMetAll_unlocatedAll, hsame, Response.enumsMetAll_unlocatedAll]
  have hresponse : Response.ofOperation r fields' = Response.ofOperation r fields := by
    rw [← Response.ofOperation_unlocatedAll, hsame, Response.ofOperation_unlocatedAll]
  simp only [hfields, hfields', hescaped, henums, hresponse, bind, Except.bind]

theorem exists_fault_of_requireSpelled {r : Resolver} {names : List String} {e : GenerationError}
    (h : requireSpelled r names = .error e) : ∃ fault, e = .unspellable fault := by
  unfold requireSpelled at h
  cases hfault : r.firstFault? names with
  | none =>
    rw [hfault] at h
    cases h
  | some fault =>
    rw [hfault] at h
    exact ⟨fault, (Except.error.inj h).symm⟩

/-- A named operation of a document has its classes unless a name cannot be escaped. -/
theorem exists_contribution {fragments : Fragments} {o : Operation} {kind : OperationKind}
    {name : String} (hkind : kindOf o = .ok kind) (hname : o.name? = some name)
    (hsource : o.source?.isSome) (htypes : ∀ v ∈ o.variables, v.type.Written)
    (hcycle : NoFieldCycle fragments o.selections) (r : Resolver) (s : Schema) (path : String) :
    (∃ fault, contribution r s fragments path o = .error (.unspellable fault)) ∨
      ∃ c m, contribution r s fragments path o = .ok c ∧ c.operation? = some m ∧
        m.source = Payload.text o fragments := by
  have hsets : ∀ set ∈ [o.selections], NoFieldCycle fragments set := by simpa using hcycle
  obtain ⟨l, hl⟩ := exists_merge? hsets
  have hfields := typedFields_of_merge? (s := s) hl kind
  have hpayload := payload_of_source hsource fragments
  cases hclass : requireSpelled r (Response.escapedInClass r (l.annotate s (rootName? s kind))) with
  | error e =>
    obtain ⟨fault, rfl⟩ := exists_fault_of_requireSpelled hclass
    refine .inl ⟨fault, ?_⟩
    simp [contribution, hkind, hname, hfields, hclass, bind, Except.bind]
  | ok _ =>
    have hinputs : requireInputs r s o.variables =
        requireSpelled r (Input.expandVariables r s o.variables {}).escaped := by
      rw [requireInputs, stop?_eq_none htypes]
    cases hinput : requireSpelled r (Input.expandVariables r s o.variables {}).escaped with
    | error e =>
      obtain ⟨fault, rfl⟩ := exists_fault_of_requireSpelled hinput
      refine .inl ⟨fault, ?_⟩
      simp [contribution, hkind, hname, hfields, hclass, hinputs, hinput, bind, Except.bind]
    | ok _ =>
      obtain ⟨c, hc, hm⟩ := contribution_operation_iff.mpr
        ⟨kind, name, _, _, _, hkind, hname, hfields, hclass, hinputs.trans hinput,
          hpayload, rfl⟩
      exact .inr ⟨c, _, hc, hm, rfl⟩

/-- Generating from the text that is sent for an operation gives the same classes and the same
text again, and the text has nothing but the operation and the fragments it uses. -/
theorem contribution_of_parse_source {text : String} {doc : Document}
    (hdoc : Document.parse text = .ok doc) {o : Operation} (ho : .operation o ∈ doc)
    {name : String} (hname : o.name? = some name)
    (hcycle : NoFieldCycle (Fragments.ofDocument doc) o.selections) (r : Resolver) (s : Schema)
    (path : String) :
    (∃ fault, contribution r s (Fragments.ofDocument doc) path o =
        .error (.unspellable fault)) ∨
      ∃ c m, contribution r s (Fragments.ofDocument doc) path o = .ok c ∧
        c.operation? = some m ∧
        ∃ (used used' : List Fragment) (o' : Operation) (doc' : Document),
          Payload.InFirstUse (Fragments.ofDocument doc) o.selections used ∧
          Document.parse m.source = .ok doc' ∧
          doc' = .operation o' :: used'.map .fragment ∧
          o'.unlocated = o.unlocated ∧
          used'.map Fragment.unlocated = used.map Fragment.unlocated ∧
          contribution r s (Fragments.ofDocument doc') path o' = .ok c := by
  obtain ⟨kind, hparsed⟩ := kind_of_mem_parse hdoc ho
  have hkind : kindOf o = .ok kind := by simp [kindOf, hparsed]
  have hsources : ∀ d ∈ Definition.operation o ::
      (Payload.usedDefinitions (Fragments.ofDocument doc) o.selections).map .fragment,
        d.source?.isSome := by
    intro d hd
    obtain ⟨piece, hpiece⟩ := Payload.readsAs_of_mem hdoc ho d hd
    simp [hpiece.source]
  have hsource : o.source?.isSome := hsources (.operation o) (by simp)
  have htypes : ∀ v ∈ o.variables, v.type.Written :=
    fun v hv => ((wellNamed_of_parse hdoc (.operation o) ho).variables v hv).type
  rcases exists_contribution hkind hname hsource htypes hcycle r s path with
    hfault | ⟨c, m, hc, hm, hm'⟩
  · exact .inl hfault
  · obtain ⟨o', used', hdoc', ho', hused'⟩ := Payload.parse_text hdoc ho
    rw [← hm'] at hdoc'
    have hfragments : Fragments.ofDocument (.operation o' :: used'.map .fragment) = used' := by
      rw [Fragments.ofDocument, List.filterMap_cons_none rfl, List.filterMap_map]
      exact List.filterMap_some
    have hagain := contribution_of_carried (Payload.carries_of_unlocated hused')
      (carries_unlocated used' o'.selections) ho' hsources hcycle r s path
    refine .inr ⟨c, m, hc, hm, _, used', o', _,
      Payload.inFirstUse_usedDefinitions _ o.selections, hdoc', rfl, ho', hused', ?_⟩
    rw [hfragments, hagain, hc]

def meText : String :=
  "query Me { ...Name } fragment Other on Query { me } fragment Name on Query { me ...Name }"

def meQuery : Operation :=
  ⟨none, .parsed .query, some "Me", [], [], [.spread "Name" [] 11], some "query Me { ...Name }"⟩

/-- A fragment that spreads itself is sent once, and one that is not used is not sent. -/
def meDocument : Document :=
  [.operation meQuery,
    .fragment ⟨none, "Other", "Query", [], [.field none "me" [] [] none 47],
      some "fragment Other on Query { me }"⟩,
    .fragment ⟨none, "Name", "Query", [], [.field none "me" [] [] none 77, .spread "Name" [] 80],
      some "fragment Name on Query { me ...Name }"⟩]

def meSchema : Schema :=
  ⟨none, [], [⟨none, false, "Query", [], .object [] [⟨none, "me", [], .named (some "String"), []⟩]⟩]⟩

def meResolver : Resolver := ⟨.python, [], [], some meSchema⟩

theorem parse_meText : Document.parse meText = .ok meDocument := by
  cbv

theorem noFieldCycle_meQuery :
    NoFieldCycle (Fragments.ofDocument meDocument) meQuery.selections := by
  intro name f via _ hf hbelow
  have hnone : ∀ f ∈ Fragments.ofDocument meDocument, spreadNamesBelowAll f.selections = [] := by
    decide +kernel
  have hmem := hbelow.mem
  rw [hnone f (Fragments.find?_mem hf)] at hmem
  cases hmem

theorem contribution_of_parse_meText :
    Document.parse meText = .ok meDocument ∧
      ∃ c m, contribution meResolver meSchema (Fragments.ofDocument meDocument) "me.graphql"
          meQuery = .ok c ∧
        c.operation? = some m ∧
        ∃ (used used' : List Fragment) (o' : Operation) (doc' : Document),
          Payload.InFirstUse (Fragments.ofDocument meDocument) meQuery.selections used ∧
          Document.parse m.source = .ok doc' ∧
          doc' = .operation o' :: used'.map .fragment ∧
          o'.unlocated = meQuery.unlocated ∧
          used'.map Fragment.unlocated = used.map Fragment.unlocated ∧
          contribution meResolver meSchema (Fragments.ofDocument doc') "me.graphql" o' = .ok c := by
  have hmem : .operation meQuery ∈ meDocument := by simp [meDocument]
  have hspelled : (contribution meResolver meSchema (Fragments.ofDocument meDocument) "me.graphql"
      meQuery).isOk = true := by
    decide +kernel
  refine ⟨parse_meText, (contribution_of_parse_source parse_meText hmem rfl noFieldCycle_meQuery
    meResolver meSchema "me.graphql").resolve_left ?_⟩
  rintro ⟨fault, hfault⟩
  rw [hfault] at hspelled
  cases hspelled

end OperationClasses.Generator
