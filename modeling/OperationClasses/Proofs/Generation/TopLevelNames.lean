import OperationClasses.Proofs.Generation.Closed
import OperationClasses.Proofs.Naming.Words

/-!
# Names at the level of the module

A generated Python module binds a class and a function for each operation, beside its enumerations,
its input classes and the names of the preamble. The names for operations are made from the wrapper
names by changing the case of their words. Case conversion forgets where wrapper names differ, so
operations with different wrapper names may still replace each other.
-/
namespace OperationClasses

open Syntax Text

namespace Naming

/-- Names that begin with a small letter keep their class and function apart. -/
theorem pascalCase_ne_snakeCase {a b : String} {c d : Char} {more more' : List Char}
    (ha : a.toList = c :: more) (hc : isSmall c) (hb : b.toList = d :: more') (hd : isSmall d) :
    pascalCase a ≠ snakeCase b := by
  obtain ⟨t, ht⟩ := exists_pascalChars_cons hc more
  obtain ⟨t', ht'⟩ := exists_snakeChars_cons hd more'
  have hsnake : isSnake d := by simp [isSnake, hd]
  have hupper := toUpper_of_isSnake (c := c) (by simp [isSnake, hc])
  rw [if_pos hc] at hupper
  intro heq
  rw [← String.toList_inj, pascalCase, snakeCase, String.toList_ofList, String.toList_ofList, ha,
    hb, ht, ht', List.cons.injEq] at heq
  exact not_isCapital_of_isSnake hsnake (heq.1 ▸ hupper.1)

/-- The Pascal form is made from the snake form. -/
theorem pascalCase_eq_of_snakeCase_eq {a b : String} (h : snakeCase a = snakeCase b) :
    pascalCase a = pascalCase b := by
  have hchars : snakeChars a.toList = snakeChars b.toList := String.ofList_injective h
  rw [pascalCase, pascalCase, pascalChars, pascalChars, hchars]

end Naming

/-- A wrapper name begins with the kind of its operation. -/
theorem OperationModel.exists_nameOf_cons (kind : OperationKind) (operationName : String) :
    ∃ c ∈ ['q', 'm', 's'], Naming.isSmall c ∧
      ∃ rest, (nameOf kind operationName).toList = c :: rest := by
  have htext : ∃ c ∈ ['q', 'm', 's'], Naming.isSmall c ∧ ∃ rest, kind.text.toList = c :: rest := by
    cases kind with
    | query => exact ⟨'q', by simp, by decide, _, rfl⟩
    | mutation => exact ⟨'m', by simp, by decide, _, rfl⟩
    | subscription => exact ⟨'s', by simp, by decide, _, rfl⟩
  obtain ⟨c, hc, hsmall, rest, htext⟩ := htext
  exact ⟨c, hc, hsmall, rest ++ operationName.toList, by simp [nameOf, htext]⟩

theorem OperationModel.isName_nameOf (kind : OperationKind) {operationName : String}
    (h : isName operationName) : isName (nameOf kind operationName) := by
  have hrest : operationName.toList.all isNamePart :=
    List.all_eq_true.mpr fun c hc => isNamePart_of_mem h hc
  have htext : ∃ c rest, kind.text.toList = c :: rest ∧ isNameStart c ∧ rest.all isNamePart := by
    cases kind <;> exact ⟨_, _, rfl, by decide, by decide⟩
  obtain ⟨c, rest, htext, hc, hall⟩ := htext
  rw [isName, nameOf, String.toList_append, htext, List.cons_append]
  simp [hc, hall, hrest]

namespace Layout.Python

/-- The names that a line of a module binds at the level of the module. -/
def namesBound (line : List Char) : List (List Char) :=
  match pieces ' ' line with
  | keyword :: second :: more =>
    if keyword = "from".toList then (more.drop 1).map (·.takeWhile isNamePart)
    else if keyword = "class".toList then [second.takeWhile isNamePart]
    else if second = ['='] then [keyword] else []
  | _ => []

/-- The names that every module binds before its enumerations. -/
def templateNames : List String :=
  ((pieces '\n' preamble.toList).flatMap namesBound).map String.ofList

theorem templateNames_eq : templateNames = ["date", "datetime", "Enum", "Any", "List", "Optional",
    "Protocol", "Type", "TypeVar", "BaseModel", "ConfigDict", "Field", "TRes", "NetworkClient",
    "GraphQLModel"] := by
  have hchars : (pieces '\n' preamble.toList).flatMap namesBound =
      ["date", "datetime", "Enum", "Any", "List", "Optional", "Protocol", "Type", "TypeVar",
        "BaseModel", "ConfigDict", "Field", "TRes", "NetworkClient", "GraphQLModel"].map
        String.toList := by
    unfold preamble
    simp only [String.toList_append]
    repeat rewrite [String.toList_ofList]
    decide +kernel
  rw [templateNames, hchars]
  simp

/-- The names of the classes around operations and of the functions that send them. -/
def operationNames (operations : List OperationModel) : List String :=
  operations.map className ++ operations.map helperName

theorem not_mem_templateNames {m : OperationModel} {kind : OperationKind} {operationName : String}
    (hm : m.name = OperationModel.nameOf kind operationName) :
    className m ∉ templateNames ∧ helperName m ∉ templateNames := by
  have hheads : ∀ c ∈ ['q', 'm', 's'], ∀ name ∈ templateNames,
      name.toList.head? ≠ some c ∧ name.toList.head? ≠ some c.toUpper := by
    rw [templateNames_eq]
    intro c hc
    simp only [List.mem_cons, List.not_mem_nil, or_false] at hc
    rcases hc with rfl | rfl | rfl <;> decide
  obtain ⟨c, hc, hsmall, rest, hname⟩ := OperationModel.exists_nameOf_cons kind operationName
  obtain ⟨t, ht⟩ := Naming.exists_pascalChars_cons hsmall rest
  obtain ⟨t', ht'⟩ := Naming.exists_snakeChars_cons hsmall rest
  constructor
  · intro hmem
    refine (hheads c hc _ hmem).2 ?_
    rw [className, Naming.pascalCase, String.toList_ofList, hm, hname, ht, List.head?_cons]
  · intro hmem
    refine (hheads c hc _ hmem).1 ?_
    rw [helperName, Naming.snakeCase, String.toList_ofList, hm, hname, ht', List.head?_cons]

end Layout.Python

open Layout.Python

/-- No name for an operation is bound again by the module, be it for an operation, an enumeration,
an input class or in the preamble. -/
structure Output.ClashFree (o : Output) : Prop where
  operations : (operationNames o.operations).Nodup
  enums : ∀ name ∈ operationNames o.operations, name ∉ o.enums.map (·.name)
  inputs : ∀ name ∈ operationNames o.operations, name ∉ o.inputClasses.map (·.name)
  template : ∀ name ∈ operationNames o.operations, name ∉ templateNames

namespace Generator

theorem name_eq_nameOf_of_build {g : Generator} {output : Output} {log : List LogEntry}
    (h : g.build = .ok (output, log)) {m : OperationModel} (hm : m ∈ output.operations) :
    m.name = OperationModel.nameOf m.kind m.operationName := by
  obtain ⟨cs, hcs, rfl⟩ := exists_contributions_of_build h
  obtain ⟨c, hc, hcm⟩ := List.mem_filterMap.mp hm
  obtain ⟨t, -, htc⟩ := exists_task_of_mem hcs hc
  obtain ⟨kind, name, fields, _, source, -, -, -, -, -, -, rfl⟩ :=
    contribution_operation_iff.mp ⟨c, htc, hcm⟩
  rfl

/-- The classes of operations have different names exactly if no two wrapper names have the same
words marked in them. -/
theorem nodup_className_iff {operations : List OperationModel}
    (hnames : ∀ m ∈ operations, isName m.name) :
    (operations.map className).Nodup ↔ (operations.map fun m => Naming.marked m.name).Nodup := by
  unfold List.Nodup
  rw [List.pairwise_map, List.pairwise_map]
  refine List.Pairwise.iff_of_mem fun {m n} hm hn => not_congr ?_
  exact Naming.pascalCase_eq_iff (hnames m hm) (hnames n hn)

/-- Functions have different names when classes have. -/
theorem nodup_helperName {operations : List OperationModel}
    (h : (operations.map className).Nodup) : (operations.map helperName).Nodup := by
  unfold List.Nodup at h ⊢
  rw [List.pairwise_map] at h ⊢
  exact h.imp fun hne heq => hne (Naming.pascalCase_eq_of_snakeCase_eq heq)

/-- The names for the operations of a run clash with nothing exactly if the same words are marked in
no two wrapper names and no enumeration or input class bears one of the names. -/
theorem clashFree_iff_of_build {g : Generator} {output : Output} {log : List LogEntry}
    (h : g.build = .ok (output, log)) (hnames : ∀ m ∈ output.operations, isName m.operationName) :
    output.ClashFree ↔ (output.operations.map fun m => Naming.marked m.name).Nodup ∧
      ∀ name ∈ operationNames output.operations,
        name ∉ output.enums.map (·.name) ∧ name ∉ output.inputClasses.map (·.name) := by
  have hname := fun m hm => name_eq_nameOf_of_build h (m := m) hm
  have hclasses : (output.operations.map className).Nodup ↔
      (output.operations.map fun m => Naming.marked m.name).Nodup := by
    refine nodup_className_iff fun m hm => ?_
    rw [hname m hm]
    exact OperationModel.isName_nameOf m.kind (hnames m hm)
  have happart : (output.operations.map className).Disjoint (output.operations.map helperName) := by
    intro name hclass hhelper
    obtain ⟨m, hm, rfl⟩ := List.mem_map.mp hclass
    obtain ⟨n, hn, heq⟩ := List.mem_map.mp hhelper
    obtain ⟨c, -, hc, rest, hcons⟩ := OperationModel.exists_nameOf_cons m.kind m.operationName
    obtain ⟨d, -, hd, rest', hcons'⟩ := OperationModel.exists_nameOf_cons n.kind n.operationName
    rw [← hname m hm] at hcons
    rw [← hname n hn] at hcons'
    exact Naming.pascalCase_ne_snakeCase hcons hc hcons' hd heq.symm
  have hoperations : (operationNames output.operations).Nodup ↔
      (output.operations.map className).Nodup := by
    rw [operationNames, List.nodup_append']
    exact ⟨fun h => h.1, fun h => ⟨h, nodup_helperName h, happart⟩⟩
  have htemplate : ∀ name ∈ operationNames output.operations, name ∉ templateNames := by
    intro name hmem
    rcases List.mem_append.mp hmem with hmem | hmem
    · obtain ⟨m, hm, rfl⟩ := List.mem_map.mp hmem
      exact (not_mem_templateNames (hname m hm)).1
    · obtain ⟨m, hm, rfl⟩ := List.mem_map.mp hmem
      exact (not_mem_templateNames (hname m hm)).2
  rw [← hclasses]
  constructor
  · intro hfree
    exact ⟨hoperations.mp hfree.operations,
      fun name hmem => ⟨hfree.enums name hmem, hfree.inputs name hmem⟩⟩
  · rintro ⟨hnodup, hothers⟩
    exact ⟨hoperations.mpr hnodup, fun name hmem => (hothers name hmem).1,
      fun name hmem => (hothers name hmem).2, htemplate⟩

/-- A query of one field under a given name. -/
def userQuery (name : String) : Definition :=
  .operation ⟨none, .parsed .query, some name, [], [], [.field none "user" [] [] none 0],
    some ("query " ++ name ++ " \x7b user \x7d")⟩

def userSchema : Schema where
  roots? := none
  directives := []
  types := [⟨none, false, "Query", [], .object [] [⟨none, "user", [], .named (some "Int"), []⟩]⟩]

/-- Two queries that differ in their names only. -/
def userRun (a b : String) : Generator :=
  ⟨userSchema, [⟨"users.graphql", [userQuery a, userQuery b]⟩], { target := "python" }, .python, {}⟩

theorem clashFree_userRun : ∃ output log, (userRun "getUser" "getUsers").build = .ok (output, log) ∧
    output.operations.map (·.name) = ["querygetUser", "querygetUsers"] ∧ output.ClashFree := by
  obtain ⟨output, log, hbuild, heq⟩ := exists_build_of_map
    (g := userRun "getUser" "getUsers") (fun o =>
      (o.operations.map fun m => (m.name, m.operationName), o.enums.map (·.name),
        o.inputClasses.map (·.name)))
    (show _ = some ([("querygetUser", "getUser"), ("querygetUsers", "getUsers")], [], []) by
      decide +kernel)
  obtain ⟨hoperations, henums, hinputs⟩ : _ ∧ _ ∧ _ := by simpa only [Prod.mk.injEq] using heq
  have hwrappers : output.operations.map (·.name) = ["querygetUser", "querygetUsers"] := by
    simpa [Function.comp_def] using congrArg (List.map Prod.fst) hoperations
  have hnames : output.operations.map (·.operationName) = ["getUser", "getUsers"] := by
    simpa [Function.comp_def] using congrArg (List.map Prod.snd) hoperations
  refine ⟨output, log, hbuild, hwrappers, (clashFree_iff_of_build hbuild ?_).mpr ⟨?_, ?_⟩⟩
  · intro m hm
    have hmem : m.operationName ∈ ["getUser", "getUsers"] := hnames ▸ List.mem_map_of_mem hm
    exact (by decide : ∀ name ∈ ["getUser", "getUsers"], isName name) _ hmem
  · have hmarked : (output.operations.map fun m => Naming.marked m.name) =
        ["querygetUser", "querygetUsers"].map Naming.marked := by
      rw [← hwrappers, List.map_map]
      rfl
    rw [hmarked]
    decide +kernel
  · simp [henums, hinputs]

/-- The wrapper names differ, the names of the classes and of the functions do not. -/
theorem not_clashFree_userRun :
    ∃ output log, (userRun "getUser" "get_user").build = .ok (output, log) ∧
      output.operations.map (·.name) = ["querygetUser", "queryget_user"] ∧
      output.operations.map className = ["QuerygetUser", "QuerygetUser"] ∧
      output.operations.map helperName = ["queryget_user", "queryget_user"] ∧
      ¬ output.ClashFree := by
  obtain ⟨output, log, hbuild, heq⟩ := exists_build_of_map
    (g := userRun "getUser" "get_user") (fun o =>
      (o.operations.map (·.name), o.operations.map className, o.operations.map helperName))
    (show _ = some (["querygetUser", "queryget_user"], ["QuerygetUser", "QuerygetUser"],
      ["queryget_user", "queryget_user"]) by decide +kernel)
  obtain ⟨hwrappers, hclasses, hhelpers⟩ : _ ∧ _ ∧ _ := by simpa only [Prod.mk.injEq] using heq
  refine ⟨output, log, hbuild, hwrappers, hclasses, hhelpers, fun hfree => ?_⟩
  have hnodup := hfree.operations
  rw [operationNames, hclasses] at hnodup
  exact absurd hnodup.of_append_left (by decide)

end Generator

end OperationClasses
