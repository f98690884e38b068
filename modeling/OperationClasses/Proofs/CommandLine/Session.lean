import OperationClasses.CommandLine.Run
import OperationClasses.Delivery
import OperationClasses.Proofs.Result

/-!
# What a session does besides printing

Most parts of a run print, and go on with a result or break off; the tree is not theirs to change.
Of such a part only the result matters. That of the longest one, which makes the text, is the text
of a generator for what the paths lead to.
-/
namespace OperationClasses.CommandLine

/-- A part of a run that has a given result and does nothing else than print. -/
def Session.Prints {α : Type} (m : Session α) (result : Except Failure α) : Prop :=
  ∀ t : Transcript, ∃ lines, m.run.run t = (result, { t with lines })

namespace Session

variable {α β : Type}

theorem run_bind_ok {m : Session α} {f : α → Session β} {t t' : Transcript} {a : α}
    (h : m.run.run t = (.ok a, t')) : (m >>= f).run.run t = (f a).run.run t' := by
  rw [ExceptT.run_bind, StateT.run_bind, h]
  rfl

theorem run_bind_error {m : Session α} {f : α → Session β} {t t' : Transcript} {e : Failure}
    (h : m.run.run t = (.error e, t')) : (m >>= f).run.run t = (.error e, t') := by
  rw [ExceptT.run_bind, StateT.run_bind, h]
  rfl

theorem run_get_bind (f : Transcript → Session α) (t : Transcript) :
    (get >>= f).run.run t = (f t).run.run t := rfl

theorem run_change (attempt : FileTree → FileTree.Attempt) (t : Transcript) :
    (change attempt).run.run t =
      (match (attempt t.files).2 with
        | none => .ok ()
        | some fault => .error (.file fault), { t with files := (attempt t.files).1 }) := by
  rw [change, run_get_bind]
  rcases attempt t.files with ⟨files, _ | fault⟩ <;> rfl

theorem prints_pure (a : α) : Prints (pure a) (.ok a) := fun t => ⟨t.lines, rfl⟩

theorem prints_print (stream : Stream) (texts : List String) :
    Prints (print stream texts) (.ok ()) := fun _ => ⟨_, rfl⟩

theorem prints_say (text : String) : Prints (say text) (.ok ()) := prints_print _ _

theorem prints_detail (verbose : Bool) (texts : List String) :
    Prints (detail verbose texts) (.ok ()) := prints_print _ _

theorem prints_log (verbose : Bool) (entries : List LogEntry) :
    Prints (log verbose entries) (.ok ()) := prints_print _ _

theorem prints_accept {ε : Type} (cause : ε → Failure) (result : Except ε α) :
    Prints (accept cause result) (result.mapError cause) := by
  intro t
  cases result <;> exact ⟨t.lines, rfl⟩

/-- Parts that only print make up a part that only prints. -/
theorem Prints.bind {m : Session α} {f : α → Session β} {x : Except Failure α}
    {g : α → Except Failure β} (hm : m.Prints x) (hf : ∀ a, (f a).Prints (g a)) :
    (m >>= f).Prints (x >>= g) := by
  intro t
  obtain ⟨lines, hlines⟩ := hm t
  cases x with
  | error e => exact ⟨lines, run_bind_error hlines⟩
  | ok a =>
    rw [run_bind_ok hlines]
    exact hf a { t with lines }

/-- Printing before a part that only prints does not matter. -/
theorem Prints.after {m : Session Unit} {rest : Session β} {y : Except Failure β}
    (hrest : rest.Prints y) (hm : m.Prints (.ok ())) : (m >>= fun _ => rest).Prints y :=
  hm.bind fun _ => hrest

theorem prints_acceptLoaded (verbose : Bool) (loaded : Loaded α) :
    Prints (acceptLoaded verbose loaded) (loaded.result.mapError .load) :=
  (prints_accept .load loaded.result).after (prints_log verbose loaded.log)

end Session

/-- The text of a run without what it prints, and the number of its operations. -/
def textOf (t : FileTree) (s : Surroundings) (o : Options) (schemaPath : String) :
    Except Failure (String × Nat) := do
  let config ← (configOf t s o).mapError .load
  let schema ← (Loading.schema t s.here schemaPath).result.mapError .load
  let documents ← (Loading.documents t s.here o.documents).result.mapError .load
  let g ← (Generator.create .builtIn schema documents config (hooksOf o)).mapError .generation
  let p ← g.build.mapError .generation
  let template? ← (templateOf t s o g.target).mapError .load
  let text ← (g.render template? p.1).mapError .generation
  return (text, p.1.operations.length)

open Session in
theorem prints_textFrom (t : FileTree) (s : Surroundings) (o : Options) (schemaPath : String) :
    (textFrom t s o schemaPath).Prints (textOf t s o schemaPath) := by
  refine (prints_accept _ _).bind fun config => .after (.after ?_ (prints_say _)) (prints_detail _ _)
  refine (prints_acceptLoaded _ _).bind fun schema => .after ?_ (prints_say _)
  refine (prints_acceptLoaded _ _).bind fun documents =>
    .after (.after ?_ (prints_say _)) (prints_detail _ _)
  refine (prints_accept _ _).bind fun g => (prints_accept _ _).bind fun p =>
    .after ?_ (prints_log _ _)
  refine (prints_accept _ _).bind fun template? => (prints_accept _ _).bind fun text => ?_
  exact (prints_pure _).after (prints_detail _ _)

/-- What a run reads: a generator for the schema, the documents and the configuration that the
paths lead to in a tree, with the hooks of the options and a template that the user may have. -/
structure Reads (t : FileTree) (s : Surroundings) (o : Options) (schemaPath : String)
    (g : Generator) (template? : Option String) : Prop where
  schema : (Loading.schema t s.here schemaPath).result = .ok g.schema
  documents : (Loading.documents t s.here o.documents).result = .ok g.documents
  config : configOf t s o = .ok g.config
  target : TargetRegistry.builtIn.get? g.config.target = some g.target
  hooks : g.hooks = hooksOf o
  template : templateOf t s o g.target = .ok template?

theorem generator_eq_of_create {schema : Schema} {documents : List SourceDocument} {config : Config}
    {hooks : Hooks} {registry : TargetRegistry} {g : Generator}
    (h : Generator.create registry schema documents config hooks = .ok g) :
    registry.get? config.target = some g.target ∧
      g = ⟨schema, documents, config, g.target, hooks⟩ := by
  unfold Generator.create at h
  split at h
  · next target htarget =>
    cases h
    exact ⟨htarget, rfl⟩
  · cases h

/-- A text is made exactly when all can be read and a generator makes that text of it. -/
theorem exists_textOf_eq_ok_iff {t : FileTree} {s : Surroundings} {o : Options}
    {schemaPath text : String} :
    (∃ n, textOf t s o schemaPath = .ok (text, n)) ↔
      ∃ g template?, Reads t s o schemaPath g template? ∧ g.generateWith template? = .ok text := by
  simp only [textOf, bind_eq_ok, mapError_eq_ok]
  constructor
  · rintro ⟨n, config, hconfig, schema, hschema, documents, hdocuments, g, hg, p, hbuild,
      template?, htemplate, text', hrender, h⟩
    cases h
    obtain ⟨htarget, hg⟩ := generator_eq_of_create hg
    rw [hg] at htemplate hbuild hrender
    refine ⟨_, template?, ⟨hschema, hdocuments, hconfig, htarget, rfl, htemplate⟩, ?_⟩
    exact bind_eq_ok.mpr ⟨p, hbuild, hrender⟩
  · rintro ⟨g, template?, h, hgenerate⟩
    obtain ⟨p, hbuild, hrender⟩ := bind_eq_ok.mp hgenerate
    have hcreate : Generator.create .builtIn g.schema g.documents g.config (hooksOf o) = .ok g := by
      rw [Generator.create, h.target, ← h.hooks]
    exact ⟨p.1.operations.length, g.config, h.config, g.schema, h.schema, g.documents, h.documents,
      g, hcreate, p, hbuild, template?, h.template, text, hrender, rfl⟩

end OperationClasses.CommandLine
