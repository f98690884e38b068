import OperationClasses.Proofs.Generation.Contribution
import OperationClasses.Proofs.Response.Heart
import OperationClasses.Proofs.Response.Members
import OperationClasses.Proofs.Selection.TypedLevels

/-!
# Response paths in the generated classes

Following every object property to the nested class that its type names, one meets exactly the
chains of response keys that the operation selects, each once, and the properties of every class
stand in the order in which their keys first occur. None of this depends on what the schema
declares.
-/
namespace OperationClasses.Response

open Syntax Selection

mutual

/-- The paths that begin with the property of a typed field in a class. -/
def pathsOf (heart : String → String) (c : ClassModel) :
    TypedField → Property → List (List String)
  | .leaf .., p => [[p.graphqlName]]
  | .object _ _ _ children, p =>
    [p.graphqlName] ::
      match c.findClass? (heart p.type) with
      | none => []
      | some nested =>
        (pathsIn heart nested children nested.properties).map (p.graphqlName :: ·)

/-- The paths through a class; an object property leads to the nested class that its type
names. -/
def pathsIn (heart : String → String) (c : ClassModel) :
    List TypedField → List Property → List (List String)
  | f :: fields, p :: properties => pathsOf heart c f p ++ pathsIn heart c fields properties
  | [], _ => []
  | _ :: _, [] => []

end

/-- A property stands for a typed field; the type of an object property names the nested class
of the field's selections. -/
structure StandsFor (r : Resolver) (heart : String → String) (classes : List ClassModel)
    (f : TypedField) (p : Property) : Prop where
  graphqlName : p.graphqlName = f.key
  nested : ∀ children, f.children? = some children →
    classes.find? (·.name = heart p.type) = some (classNamed r (heart p.type) children)

/-- Where labels differ, looking up the label of a member finds the member. -/
theorem find?_label {α : Type} {label : α → String} {as : List α}
    (hnodup : (as.map label).Nodup) {a : α} (h : a ∈ as) :
    as.find? (label · = label a) = some a := by
  induction as with
  | nil => simp at h
  | cons b rest ih =>
    rw [List.map_cons, List.nodup_cons] at hnodup
    rcases List.mem_cons.mp h with rfl | h
    · simp
    · have hne : label b ≠ label a := fun he => hnodup.1 (List.mem_map.mpr ⟨a, h, he.symm⟩)
      simpa [hne] using ih hnodup.2 h

/-- The property of a field names the class that is made for the field. -/
theorem heart_propertyOf {r : Resolver} {heart : String → String} (hr : Legible r heart)
    (used : List String) {f : TypedField} (hf : Regular f) {children : List TypedField}
    (hchildren : f.children? = some children) :
    heart (propertyOf r used f).type = freeName r used f.key f.type := by
  cases f with
  | leaf => cases hchildren
  | object node key type children' =>
    exact (heart_objectProperty hr hf.type key _).trans (hr.className used _ hf)

/-- The properties of a class stand for its typed fields, one by one. -/
theorem forall₂_standsFor {r : Resolver} {heart : String → String} (hr : Legible r heart)
    (name : String) {fields : List TypedField} (hregular : ∀ f ∈ fields, Regular f) :
    List.Forall₂ (StandsFor r heart (classNamed r name fields).classes) fields
      (classNamed r name fields).properties := by
  have hfounded : ∀ f ∈ fields, Founded f := fun f hf => (hregular f hf).toFounded
  have hnodup := (names_members r (takenNames r name fields) hfounded).1
  have hmade := forall₂_madeFor (r := r) hfounded (takenNames r name fields)
  refine List.forall₂_iff_zip.mpr ⟨hmade.length_eq, fun {f p} hmem => ?_⟩
  have hf := hregular f (List.of_mem_zip hmem).1
  obtain ⟨used, rfl, hnested⟩ := (List.forall₂_iff_zip.mp hmade).2 hmem
  refine ⟨graphqlName_propertyOf r used hf, fun children hchildren => ?_⟩
  rw [heart_propertyOf hr used hf hchildren]
  exact find?_label hnodup (hnested children hchildren)

mutual

theorem pathsOf_eq {r : Resolver} {heart : String → String} (hr : Legible r heart) (f : TypedField)
    (hregular : ∀ children, f.children? = some children → ∀ g, Within children g → Regular g)
    (c : ClassModel) {p : Property} (h : StandsFor r heart c.classes f p) :
    pathsOf heart c f p = keyPaths f := by
  cases f with
  | leaf => simp [pathsOf, keyPaths, h.graphqlName, TypedField.key]
  | object node key type children =>
    have hbelow := pathsIn_eq hr children (hregular children rfl)
      (classNamed r (heart p.type) children)
      (forall₂_standsFor hr _ fun g hg => hregular children rfl g (.here hg))
    simp [pathsOf, keyPaths, ClassModel.findClass?, h.nested children rfl, hbelow, h.graphqlName,
      TypedField.key]

/-- Following the object properties of a class, one walks through its typed fields. -/
theorem pathsIn_eq {r : Resolver} {heart : String → String} (hr : Legible r heart)
    (fields : List TypedField) (hregular : ∀ f, Within fields f → Regular f) (c : ClassModel)
    {properties : List Property}
    (h : List.Forall₂ (StandsFor r heart c.classes) fields properties) :
    pathsIn heart c fields properties = keyPathsAll fields := by
  cases h with
  | nil => simp [pathsIn, keyPathsAll]
  | @cons f p rest properties hf hrest =>
    have hfirst := pathsOf_eq hr f
      (fun children hchildren g hg => hregular g (.inside (by simp) hchildren hg)) c hf
    have hothers := pathsIn_eq hr rest (fun g hg => hregular g (by
      cases hg with
      | here hmem => exact .here (List.mem_cons_of_mem f hmem)
      | inside hmem hchildren hbelow =>
        exact .inside (List.mem_cons_of_mem f hmem) hchildren hbelow)) c hrest
    rw [pathsIn, keyPathsAll, hfirst, hothers]

end

/-- Typed fields of sound selections are regular, at every depth. -/
theorem regular_annotate {s : Schema} (hs : s.Written) {fragments : Fragments} {fuel : ℕ}
    {sets : List (List Syntax.Selection)} {l : Level}
    (h : mergeWithin fragments fuel sets = some l) (hsets : ∀ set ∈ sets, Sound fragments set)
    {parent? : Option String} {f : TypedField} (hf : Within (l.annotate s parent?) f) :
    Regular f := by
  obtain ⟨_, _, sets', key, hsets', hkey, htyped⟩ :=
    exists_types_of_within h (fun _ _ _ hset => Sound.below hset) hsets hf
  obtain ⟨set, hset, _, _, ho, rfl, -⟩ :=
    exists_field_of_mem_keys (fun set hset => (hsets' set hset).defined) hkey
  have hname := (hsets' set hset).named _ (.last ho) _ (List.mem_singleton_self _)
  exact ⟨founded_annotate hs h hf, htyped.key_eq ▸ hname⟩

/-- A type with one field of another type. -/
def oneField (name field type : String) : TypeDefinition :=
  ⟨none, false, name, [], .object [] [⟨none, field, [], .named (some type), []⟩]⟩

def userSchema : Schema :=
  ⟨none, [], [oneField "Query" "user" "User", oneField "User" "name" "String"]⟩

def userQuery : Operation :=
  ⟨none, .parsed .query, some "Users", [], [],
    [plainField "user" (some [.spread "Names" [] 0]),
      .inline (some "Query") [] [plainField "lost" (some [plainField "name" none]),
        plainField "user" (some [plainField "age" none])]], none⟩

def userResolver : Resolver := ⟨.python, [], [], some userSchema⟩

theorem written_userSchema : userSchema.Written := by
  intro d hd f hf
  simp only [userSchema, oneField, List.mem_cons, List.not_mem_nil, or_false] at hd
  rcases hd with rfl | rfl <;> simp only [TypeDefinition.fields, List.mem_singleton] at hf <;>
    exact hf ▸ .named (by decide)

end OperationClasses.Response
