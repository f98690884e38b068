import OperationClasses.Target.Basic

/-!
# Target registry

Targets by name. Registering a name again replaces its target.
-/
namespace OperationClasses

/-- Targets by the name they are registered under, the latest first. -/
structure TargetRegistry where
  entries : List (String × Target)

namespace TargetRegistry

/-- The built-in targets. -/
def builtIn : TargetRegistry := ⟨[("csharp", .csharp), ("python", .python)]⟩

/-- Registers a target under a name. -/
def register (r : TargetRegistry) (name : String) (t : Target) : TargetRegistry :=
  ⟨(name, t) :: r.entries.filter (·.1 ≠ name)⟩

/-- The target registered under a name. -/
def get? (r : TargetRegistry) (name : String) : Option Target := r.entries.lookup name

def has (r : TargetRegistry) (name : String) : Bool := (r.get? name).isSome

/-- The registered names in alphabetical order. -/
def names (r : TargetRegistry) : List String :=
  (r.entries.map (·.1)).mergeSort fun a b => decide (a ≤ b)

end TargetRegistry

end OperationClasses
