import OperationClasses.Proofs.Selection.LeadTypes

/-!
# Sites of a level

What a selection set selects at its level stands inside fragments, each with a condition on the type
of the object that is read. Flattening keeps the innermost condition only, which says where a field
is looked up; for which objects the field is selected is said by all of them.
-/
namespace OperationClasses

open Syntax

namespace Syntax.TypeDefinition

/-- The interfaces that an object or interface type implements. -/
def interfaces (d : TypeDefinition) : List String :=
  match d.body with
  | .object is _ => is
  | .interface is _ => is
  | _ => []

/-- The object types of a union. -/
def unionMembers (d : TypeDefinition) : List String :=
  match d.body with
  | .union ms => ms
  | _ => []

end Syntax.TypeDefinition

/-- The object types that a value of a type can have: the type itself, the types that implement it
or the types it unites. -/
def Schema.concreteTypes (s : Schema) (type : String) : List String :=
  (s.types.filter fun d => d.body.kind = .object && (d.name = type || d.interfaces.contains type ||
    (s.find? .union type).any (·.unionMembers.contains d.name))).map (·.name)

namespace Selection

/-- A field or an undefined spread at a level. A field comes with the conditions of all fragments
around it, the innermost first. -/
inductive Site where
  | field (around : List String) (node : FieldNode)
  | undefinedSpread (node : SpreadNode)

/-- What flattening keeps of a site. -/
def Site.occurrence : Site → Occurrence
  | field around node => .field node around.head?
  | undefinedSpread node => .undefinedSpread node

def Site.key (site : Site) : String := site.occurrence.key

mutual

/-- The sites of one selection inside fragments, given those of a spread there. -/
def placeOne (expand : List String → SpreadNode → List Site) (around : List String) :
    Syntax.Selection → List Site
  | .field alias? name args ds inner? offset =>
    [.field around ⟨alias?, name, args, ds, inner?, offset⟩]
  | .inline inner? _ selections => placeAll expand (inner?.toList ++ around) selections
  | .spread name ds offset => expand around ⟨name, ds, offset⟩

def placeAll (expand : List String → SpreadNode → List Site) (around : List String) :
    List Syntax.Selection → List Site
  | [] => []
  | s :: rest => placeOne expand around s ++ placeAll expand around rest

end

/-- The sites of a selection set inside the fragments of `path`. -/
def placeWithin (fragments : Fragments) :
    ℕ → List String → List String → List Syntax.Selection → List Site
  | 0, _, _, _ => []
  | n + 1, path, around, selections =>
    placeAll (fun around spread =>
      if path.contains spread.name then []
      else match fragments.find? spread.name with
        | none => [.undefinedSpread spread]
        | some f =>
          placeWithin fragments n (spread.name :: path) (f.condition :: around) f.selections)
      around selections

/-- The sites of a selection set. -/
def place (fragments : Fragments) (selections : List Syntax.Selection) : List Site :=
  placeWithin fragments (fragments.names.length + 1) [] [] selections

mutual

theorem map_occurrence_placeOne {expand : List String → SpreadNode → List Site}
    {expand' : SpreadNode → List Occurrence}
    (h : ∀ around spread, (expand around spread).map Site.occurrence = expand' spread) :
    ∀ (s : Syntax.Selection) (around : List String),
      (placeOne expand around s).map Site.occurrence = flattenOne expand' around.head? s
  | .field .., _ => rfl
  | .inline none _ selections, around => map_occurrence_placeAll h selections around
  | .inline (some condition) _ selections, around =>
    map_occurrence_placeAll h selections (condition :: around)
  | .spread name ds offset, around => h around ⟨name, ds, offset⟩

theorem map_occurrence_placeAll {expand : List String → SpreadNode → List Site}
    {expand' : SpreadNode → List Occurrence}
    (h : ∀ around spread, (expand around spread).map Site.occurrence = expand' spread) :
    ∀ (selections : List Syntax.Selection) (around : List String),
      (placeAll expand around selections).map Site.occurrence =
        flattenAll expand' around.head? selections
  | [], _ => rfl
  | s :: rest, around => by
    rw [placeAll, flattenAll, List.map_append, map_occurrence_placeOne h s around,
      map_occurrence_placeAll h rest around]

end

theorem map_occurrence_placeWithin (fragments : Fragments) (fuel : ℕ)
    (path around : List String) (selections : List Syntax.Selection) :
    (placeWithin fragments fuel path around selections).map Site.occurrence =
      flattenWithin fragments fuel path around.head? selections := by
  induction fuel generalizing path around selections with
  | zero => rfl
  | succ fuel ih =>
    refine map_occurrence_placeAll (fun around spread => ?_) selections around
    by_cases hpath : path.contains spread.name
    · rw [if_pos hpath, if_pos hpath]
      rfl
    · rw [if_neg hpath, if_neg hpath]
      cases fragments.find? spread.name with
      | none => rfl
      | some f => exact ih (spread.name :: path) (f.condition :: around) f.selections

/-- Flattening forgets all conditions but the innermost one. -/
theorem map_occurrence_place (fragments : Fragments) (selections : List Syntax.Selection) :
    (place fragments selections).map Site.occurrence = flatten fragments selections :=
  map_occurrence_placeWithin fragments _ [] [] selections

namespace Site

/-- A field stands in its selection set outside all conditions. -/
def Direct : Site → Prop
  | field around _ => around = []
  | undefinedSpread _ => False

/-- The field is selected for objects of a type: they meet all conditions around it. -/
def Applies (s : Schema) (object : String) : Site → Prop
  | field around _ => ∀ condition ∈ around, object ∈ s.concreteTypes condition
  | undefinedSpread _ => False

/-- The type that a field is written under declares it non-null: the innermost condition, or else
the type of its selection set. -/
def NonNull (s : Schema) (parent? : Option String) : Site → Prop
  | field around node =>
    ∃ t, fieldType s (around.head?.or parent?) node.name = .ok (.nonNull t)
  | undefinedSpread _ => False

end Site

/-- The sites of a merged level, each with the type its selection set is written under. -/
def sites (fragments : Fragments) (owned : List Owned) : List (Option String × Site) :=
  owned.flatMap fun p => (place fragments p.2).map fun site => (p.1, site)

/-- The first site of a key. -/
def firstSite? (fragments : Fragments) (owned : List Owned) (key : String) :
    Option (Option String × Site) :=
  (sites fragments owned).find? (·.2.key = key)

/-- Some field of a key is selected for objects of a type and declared non-null. -/
def Guaranteed (s : Schema) (fragments : Fragments) (owned : List Owned) (key object : String) :
    Prop :=
  ∃ p ∈ sites fragments owned, p.2.key = key ∧ p.2.Applies s object ∧ p.2.NonNull s p.1

variable {s : Schema} {fragments : Fragments} {owned : List Owned} {key : String}

theorem map_occurrence_sites (fragments : Fragments) (owned : List Owned) :
    (sites fragments owned).map (Prod.map id Site.occurrence) =
      ownedOccurrences fragments owned := by
  rw [sites, ownedOccurrences, List.map_flatMap]
  refine List.flatMap_congr fun p _ => ?_
  rw [← map_occurrence_place, List.map_map, List.map_map]
  rfl

theorem firstOf_eq_map (fragments : Fragments) (owned : List Owned) (key : String) :
    firstOf fragments owned key =
      (firstSite? fragments owned key).map (Prod.map id Site.occurrence) := by
  rw [firstOf, ← map_occurrence_sites, List.find?_map]
  rfl

/-- What the first occurrence of a key is stands at its first site. -/
theorem exists_firstSite {parent? : Option String} {o : Occurrence}
    (h : firstOf fragments owned key = some (parent?, o)) :
    ∃ site, firstSite? fragments owned key = some (parent?, site) ∧ site.occurrence = o := by
  rw [firstOf_eq_map] at h
  obtain ⟨⟨parent'?, site⟩, hsite, heq⟩ := Option.map_eq_some_iff.mp h
  obtain ⟨rfl, rfl⟩ := Prod.mk.inj heq
  exact ⟨site, hsite, rfl⟩

/-- A key whose first site is selected for objects of a type and declared non-null is guaranteed. -/
theorem guaranteed_of_firstSite {parent? : Option String} {site : Site} {object : String}
    (h : firstSite? fragments owned key = some (parent?, site)) (happlies : site.Applies s object)
    (hnonNull : site.NonNull s parent?) : Guaranteed s fragments owned key object :=
  ⟨(parent?, site), List.mem_of_find?_eq_some h, by simpa using List.find?_some h, happlies,
    hnonNull⟩

end Selection

end OperationClasses
