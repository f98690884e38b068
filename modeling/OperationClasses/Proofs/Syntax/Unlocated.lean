import OperationClasses.Syntax.Document

/-!
# Trees without their places

Fields, spreads, arguments and directives know at which offset of a text they stand. Trees that
differ in nothing else say the same.
-/
namespace OperationClasses.Syntax

/-- Forgets where an argument stands. -/
def Argument.unlocated (a : Argument) : Argument := ⟨a.name, a.value, 0⟩

/-- Forgets where a directive and its arguments stand. -/
def Directive.unlocated (d : Directive) : Directive := ⟨d.name, d.arguments.map Argument.unlocated, 0⟩

mutual

/-- Forgets where the parts of a selection stand. -/
def Selection.unlocated : Selection → Selection
  | .field alias? name args ds inner? _ =>
    .field alias? name (args.map Argument.unlocated) (ds.map Directive.unlocated)
      (match inner? with
        | some inner => some (Selection.unlocatedAll inner)
        | none => none) 0
  | .spread name ds _ => .spread name (ds.map Directive.unlocated) 0
  | .inline condition? ds inner =>
    .inline condition? (ds.map Directive.unlocated) (Selection.unlocatedAll inner)

def Selection.unlocatedAll : List Selection → List Selection
  | [] => []
  | s :: rest => s.unlocated :: Selection.unlocatedAll rest

end

theorem Selection.unlocatedAll_eq_map (selections : List Selection) :
    Selection.unlocatedAll selections = selections.map Selection.unlocated := by
  induction selections with
  | nil => rfl
  | cons s rest ih => rw [Selection.unlocatedAll, ih, List.map_cons]

theorem Selection.unlocated_field (alias? : Option String) (name : String) (args : List Argument)
    (ds : List Directive) (inner? : Option (List Selection)) (offset : Nat) :
    (Selection.field alias? name args ds inner? offset).unlocated =
      .field alias? name (args.map Argument.unlocated) (ds.map Directive.unlocated)
        (inner?.map Selection.unlocatedAll) 0 := by
  cases inner? <;> rfl

/-- Forgets where a field and its parts stand. -/
def FieldNode.unlocated (f : FieldNode) : FieldNode :=
  ⟨f.alias?, f.name, f.arguments.map Argument.unlocated, f.directives.map Directive.unlocated,
    f.selections?.map Selection.unlocatedAll, 0⟩

/-- Forgets where a spread and its parts stand. -/
def SpreadNode.unlocated (s : SpreadNode) : SpreadNode :=
  ⟨s.name, s.directives.map Directive.unlocated, 0⟩

/-- Forgets where the directives of a variable stand. -/
def VariableDefinition.unlocated (v : VariableDefinition) : VariableDefinition :=
  { v with directives := v.directives.map Directive.unlocated }

/-- Forgets where the parts of an operation stand, but not the characters it was read from. -/
def Operation.unlocated (o : Operation) : Operation :=
  ⟨o.description?, o.kind, o.name?, o.variables.map VariableDefinition.unlocated,
    o.directives.map Directive.unlocated, Selection.unlocatedAll o.selections, o.source?⟩

/-- Forgets where the parts of a fragment stand, but not the characters it was read from. -/
def Fragment.unlocated (f : Fragment) : Fragment :=
  { f with
    directives := f.directives.map Directive.unlocated
    selections := Selection.unlocatedAll f.selections }

end OperationClasses.Syntax
