import Mathlib.Data.List.Perm.Subperm
import OperationClasses.Proofs.Selection.Thinning

/-!
# Depth-first expansion of named bodies

A text is a list of steps, each of which says something or names a body whose text stands in its
place. Bodies may name each other in circles, so an expansion has to cut some names. One that
cuts the names on its way, `along`, expands a body again wherever it is named next to another
one; one that remembers all the names it has entered, `once`, expands each body at most once.
What the second says is what the first says, thinned.
-/
namespace OperationClasses.Expansion

/-- A step of a text. -/
inductive Step (α : Type*) where
  | say (a : α)
  | enter (name : String)

abbrev Bodies (α : Type*) := String → Option (List (Step α))

variable {α β : Type*}

def Step.map (f : α → β) : Step α → Step β
  | say a => say (f a)
  | enter name => enter name

/-- Expands a text inside the bodies of `path`, which are not entered again. -/
def along (bodies : Bodies α) : ℕ → List String → List (Step α) → List α
  | 0, _, _ => []
  | fuel + 1, path, text => text.flatMap fun step =>
    match step with
    | .say a => [a]
    | .enter name =>
      if name ∈ path then []
      else match bodies name with
        | none => []
        | some body => along bodies fuel (name :: path) body

/-- The bodies entered so far and what was said. -/
structure Walk (α : Type*) where
  visited : List String
  said : List α

/-- Expands a text; a body that was entered before is passed over. -/
def once (bodies : Bodies α) : ℕ → List (Step α) → Walk α → Walk α
  | 0, _, w => w
  | fuel + 1, text, w => text.foldl (fun w step =>
    match step with
    | .say a => { w with said := w.said ++ [a] }
    | .enter name =>
      if name ∈ w.visited then w
      else match bodies name with
        | none => w
        | some body => once bodies fuel body { w with visited := name :: w.visited }) w

/-- What a text says, with the texts of all bodies it leads to. -/
inductive LeadsTo (bodies : Bodies α) : List (Step α) → α → Prop where
  | here {text : List (Step α)} {a : α} : .say a ∈ text → LeadsTo bodies text a
  | inside {text body : List (Step α)} {name : String} {a : α} :
      .enter name ∈ text → bodies name = some body → LeadsTo bodies body a → LeadsTo bodies text a

/-- What a text leads to, a longer one leads to as well. -/
theorem LeadsTo.mono {bodies : Bodies α} {text text' : List (Step α)} {a : α}
    (h : LeadsTo bodies text a) (hsub : text ⊆ text') : LeadsTo bodies text' a := by
  cases h with
  | here hmem => exact .here (hsub hmem)
  | inside hmem hbody h => exact .inside (hsub hmem) hbody h

/-- The names are distinct, and the fuel suffices for entering all others of the stock. -/
structure Room (stock : List String) (fuel : ℕ) (entered : List String) : Prop where
  nodup : entered.Nodup
  subset : entered ⊆ stock
  enough : stock.length < fuel + entered.length

namespace Room

variable {stock entered : List String} {fuel : ℕ} {name : String}

theorem pos (h : Room stock fuel entered) : 0 < fuel := by
  have hle := (List.subperm_of_subset h.nodup h.subset).length_le
  have := h.enough
  omega

theorem enter (h : Room stock (fuel + 1) entered) (hname : name ∈ stock) (hnew : name ∉ entered) :
    Room stock fuel (name :: entered) where
  nodup := List.nodup_cons.mpr ⟨hnew, h.nodup⟩
  subset := List.cons_subset.mpr ⟨hname, h.subset⟩
  enough := by
    have := h.enough
    simp only [List.length_cons]
    omega

theorem initial (stock : List String) : Room stock (stock.length + 1) [] :=
  ⟨List.nodup_nil, List.nil_subset _, by simp⟩

end Room

@[simp] theorem along_nil (bodies : Bodies α) (fuel : ℕ) (path : List String) :
    along bodies fuel path [] = [] := by
  cases fuel <;> simp [along]

theorem along_cons (bodies : Bodies α) (fuel : ℕ) (path : List String) (step : Step α)
    (text : List (Step α)) :
    along bodies fuel path (step :: text) =
      along bodies fuel path [step] ++ along bodies fuel path text := by
  cases fuel <;> simp [along]

theorem along_enter (bodies : Bodies α) (fuel : ℕ) {path : List String} {name : String}
    (hpath : name ∉ path) {body : List (Step α)} (hbody : bodies name = some body) :
    along bodies (fuel + 1) path [.enter name] = along bodies fuel (name :: path) body := by
  simp [along, hpath, hbody]

theorem once_cons (bodies : Bodies α) (fuel : ℕ) (step : Step α) (text : List (Step α))
    (w : Walk α) :
    once bodies fuel (step :: text) w = once bodies fuel text (once bodies fuel [step] w) := by
  cases fuel <;> simp [once]

theorem once_append (bodies : Bodies α) (fuel : ℕ) (text text' : List (Step α)) (w : Walk α) :
    once bodies fuel (text ++ text') w = once bodies fuel text' (once bodies fuel text w) := by
  cases fuel <;> simp [once]

@[simp] theorem once_nil (bodies : Bodies α) (fuel : ℕ) (w : Walk α) : once bodies fuel [] w = w := by
  cases fuel <;> simp [once]

theorem once_enter (bodies : Bodies α) (fuel : ℕ) {name : String} {w : Walk α}
    (hnew : name ∉ w.visited) {body : List (Step α)} (hbody : bodies name = some body) :
    once bodies (fuel + 1) [.enter name] w =
      once bodies fuel body { w with visited := name :: w.visited } := by
  simp [once, hnew, hbody]

theorem Room.succ {stock entered : List String} {fuel : ℕ} (h : Room stock fuel entered) :
    Room stock (fuel + 1) entered :=
  ⟨h.nodup, h.subset, by have := h.enough; omega⟩

/-- Opening bodies leaves room. -/
theorem Room.once {bodies : Bodies α} {stock : List String}
    (hbodies : ∀ name body, bodies name = some body → name ∈ stock) {fuel : ℕ}
    {visited : List String} (h : Room stock fuel visited) (text : List (Step α)) (said : List α) :
    Room stock fuel (once bodies fuel text ⟨visited, said⟩).visited := by
  induction fuel generalizing visited text said with
  | zero => exact h
  | succ fuel ih =>
    induction text generalizing visited said with
    | nil => simpa using h
    | cons step text iht =>
      have hstep : Room stock (fuel + 1)
          (Expansion.once bodies (fuel + 1) [step] ⟨visited, said⟩).visited := by
        cases step with
        | say a => simpa [Expansion.once] using h
        | enter name =>
          by_cases hvisited : name ∈ visited
          · simpa [Expansion.once, hvisited] using h
          · cases hbody : bodies name with
            | none => simpa [Expansion.once, hvisited, hbody] using h
            | some body =>
              have hnew : name ∉ (⟨visited, said⟩ : Walk α).visited := hvisited
              rw [once_enter bodies fuel hnew hbody]
              exact (ih (h.enter (hbodies name body hbody) hvisited) body said).succ
      rw [once_cons]
      exact iht hstep _

/-- What an expansion says does not depend on the fuel, and on the bodies only as far as the
text reaches them. -/
theorem along_congr {bodies : Bodies α} {bodies' : Bodies β} {stock stock' : List String}
    (hbodies : ∀ name body, bodies name = some body → name ∈ stock)
    (hbodies' : ∀ name body, bodies' name = some body → name ∈ stock') (f : α → β)
    (reached : String → Prop)
    (hsame : ∀ name, reached name → bodies' name = (bodies name).map (List.map (Step.map f)))
    (hinside : ∀ name body n, reached name → bodies name = some body → .enter n ∈ body → reached n)
    {fuel fuel' : ℕ} {path : List String} (hroom : Room stock fuel path)
    (hroom' : Room stock' fuel' path) {text : List (Step α)}
    (htext : ∀ n, .enter n ∈ text → reached n) :
    along bodies' fuel' path (text.map (Step.map f)) = (along bodies fuel path text).map f := by
  induction fuel generalizing fuel' path text with
  | zero => exact absurd hroom.pos (by simp)
  | succ fuel ih =>
    obtain ⟨fuel', rfl⟩ := Nat.exists_eq_add_one.mpr hroom'.pos
    induction text with
    | nil => simp
    | cons step text iht =>
      rw [List.map_cons, along_cons, along_cons bodies, List.map_append,
        iht fun n hn => htext n (List.mem_cons_of_mem _ hn)]
      congr 1
      cases step with
      | say a => simp [along, Step.map]
      | enter name =>
        have hname : reached name := htext name (by simp)
        have hbody' := hsame name hname
        cases hbody : bodies name with
        | none =>
          rw [hbody, Option.map_none] at hbody'
          simp [along, Step.map, hbody, hbody']
        | some body =>
          rw [hbody, Option.map_some] at hbody'
          by_cases hpath : name ∈ path
          · simp [along, hpath, Step.map]
          · rw [along_enter bodies fuel hpath hbody]
            refine (along_enter bodies' fuel' hpath hbody').trans (ih ?_ ?_ ?_)
            · exact hroom.enter (hbodies name body hbody) hpath
            · exact hroom'.enter (hbodies' name _ hbody') hpath
            · exact fun n hn => hinside name body n hname hbody hn

/-- All that a text says itself was said, and all bodies it names were entered. -/
structure Covered (bodies : Bodies α) (w : Walk α) (text : List (Step α)) : Prop where
  said : ∀ a, .say a ∈ text → a ∈ w.said
  entered : ∀ name, .enter name ∈ text → (bodies name).isSome → name ∈ w.visited

theorem Covered.mono {bodies : Bodies α} {w w' : Walk α} {text : List (Step α)}
    (h : Covered bodies w text) (hv : w.visited ⊆ w'.visited) (hs : w.said ⊆ w'.said) :
    Covered bodies w' text :=
  ⟨fun a ha => hs (h.said a ha), fun name hn hb => hv (h.entered name hn hb)⟩

/-- The state of an expansion inside the bodies of `path`. Bodies that were entered and left
again lead only to bodies that were entered too. -/
structure Settled (bodies : Bodies α) (stock path : List String) (w : Walk α) : Prop where
  path_visited : path ⊆ w.visited
  nodup : w.visited.Nodup
  stocked : w.visited ⊆ stock
  finished : ∀ name ∈ w.visited, name ∉ path → ∀ body, bodies name = some body →
    Covered bodies w body

section

variable {bodies : Bodies α} {stock path : List String} {w : Walk α}

/-- Expanding what is covered says nothing new, on any longer path. -/
theorem along_subset_said (h : Settled bodies stock path w) (fuel : ℕ) {path' : List String}
    (hpath : path ⊆ path') {text : List (Step α)} (htext : Covered bodies w text) :
    along bodies fuel path' text ⊆ w.said := by
  induction fuel generalizing path' text with
  | zero => simp [along]
  | succ fuel ih =>
    intro a ha
    simp only [along, List.mem_flatMap] at ha
    obtain ⟨step, hstep, ha⟩ := ha
    cases step with
    | say b =>
      have hab : a = b := by simpa using ha
      exact hab ▸ htext.said b hstep
    | enter name =>
      by_cases hname : name ∈ path'
      · simp [hname] at ha
      · cases hbody : bodies name with
        | none => simp [hname, hbody] at ha
        | some body =>
          have hvisited := htext.entered name hstep (by simp [hbody])
          have hcovered := h.finished name hvisited (fun hp => hname (hpath hp)) body hbody
          simp only [hname, hbody, if_false] at ha
          exact ih (List.subset_cons_of_subset name hpath) hcovered ha

/-- What a step of `once` leaves behind when the same step of `along` says `spoken`. -/
structure Advance (bodies : Bodies α) (stock path : List String) (w w' : Walk α)
    (text : List (Step α)) (spoken : List α) : Prop where
  settled : Settled bodies stock path w'
  visited : w.visited ⊆ w'.visited
  covered : Covered bodies w' text
  thinned : ∃ new, w'.said = w.said ++ new ∧ Thinned w.said spoken new

theorem Advance.said {w' : Walk α} {text : List (Step α)} {spoken : List α}
    (h : Advance bodies stock path w w' text spoken) : w.said ⊆ w'.said := by
  obtain ⟨new, hnew, _⟩ := h.thinned
  exact hnew ▸ List.subset_append_left _ _

theorem Advance.trans {w' w'' : Walk α} {text text' : List (Step α)} {spoken spoken' : List α}
    (h : Advance bodies stock path w w' text spoken)
    (h' : Advance bodies stock path w' w'' text' spoken') :
    Advance bodies stock path w w'' (text ++ text') (spoken ++ spoken') where
  settled := h'.settled
  visited := List.Subset.trans h.visited h'.visited
  covered := by
    have hold := h.covered.mono h'.visited h'.said
    constructor
    · intro a ha
      exact (List.mem_append.mp ha).elim (hold.said a) (h'.covered.said a)
    · intro name hn
      exact (List.mem_append.mp hn).elim (hold.entered name) (h'.covered.entered name)
  thinned := by
    obtain ⟨new, hnew, ht⟩ := h.thinned
    obtain ⟨new', hnew', ht'⟩ := h'.thinned
    exact ⟨new ++ new', by rw [hnew', hnew, List.append_assoc], ht.append (hnew ▸ ht')⟩

theorem Advance.refl (h : Settled bodies stock path w) : Advance bodies stock path w w [] [] where
  settled := h
  visited := List.Subset.refl _
  covered := ⟨by simp, by simp⟩
  thinned := ⟨[], by simp, .nil⟩

theorem Advance.say (h : Settled bodies stock path w) (a : α) :
    Advance bodies stock path w ⟨w.visited, w.said ++ [a]⟩ [.say a] [a] where
  settled := ⟨h.path_visited, h.nodup, h.stocked, fun name hn hp body hb =>
    (h.finished name hn hp body hb).mono (List.Subset.refl _) (List.subset_append_left _ _)⟩
  visited := List.Subset.refl _
  covered := ⟨by simp, by simp⟩
  thinned := ⟨[a], rfl, .refl _ _⟩

theorem Advance.missing (h : Settled bodies stock path w) {name : String}
    (hbody : bodies name = none) : Advance bodies stock path w w [.enter name] [] where
  settled := h
  visited := List.Subset.refl _
  covered := ⟨by simp, by simp [hbody]⟩
  thinned := ⟨[], by simp, .nil⟩

/-- A body that was entered before is on the path, or it was left and is covered. -/
theorem Advance.again (h : Settled bodies stock path w) {name : String}
    (hvisited : name ∈ w.visited) {body : List (Step α)} (hbody : bodies name = some body)
    (fuel : ℕ) :
    Advance bodies stock path w w [.enter name] (along bodies (fuel + 1) path [.enter name]) where
  settled := h
  visited := List.Subset.refl _
  covered := ⟨by simp, by simpa using fun _ => hvisited⟩
  thinned := by
    refine ⟨[], by simp, .of_subset ?_⟩
    by_cases hpath : name ∈ path
    · simp [along, hpath]
    · rw [along_enter bodies fuel hpath hbody]
      exact along_subset_said h fuel (List.subset_cons_self name path)
        (h.finished name hvisited hpath body hbody)

/-- While a body is expanded it is on the path and need not be covered. -/
theorem Settled.enter (h : Settled bodies stock path w) {name : String} (hname : name ∈ stock)
    (hnew : name ∉ w.visited) :
    Settled bodies stock (name :: path) ⟨name :: w.visited, w.said⟩ where
  path_visited := List.cons_subset_cons name h.path_visited
  nodup := List.nodup_cons.mpr ⟨hnew, h.nodup⟩
  stocked := List.cons_subset.mpr ⟨hname, h.stocked⟩
  finished := by
    intro n hn hp body hb
    rw [List.mem_cons, not_or] at hp
    have hn' : n ∈ w.visited := (List.mem_cons.mp hn).resolve_left hp.1
    exact (h.finished n hn' hp.2 body hb).mono (List.subset_cons_self name _)
      (List.Subset.refl _)

/-- Once a body is expanded it is covered, and it leaves the path. -/
theorem Advance.leave {w' : Walk α} {name : String} {body : List (Step α)} {spoken : List α}
    (hbody : bodies name = some body)
    (h : Advance bodies stock (name :: path) ⟨name :: w.visited, w.said⟩ w' body spoken) :
    Advance bodies stock path w w' [.enter name] spoken where
  settled := by
    refine ⟨List.Subset.trans (List.subset_cons_self name path) h.settled.path_visited,
      h.settled.nodup, h.settled.stocked, ?_⟩
    intro n hn hp b hb
    by_cases hne : n = name
    · subst hne
      rw [hbody] at hb
      exact Option.some.inj hb ▸ h.covered
    · exact h.settled.finished n hn (by simp [hne, hp]) b hb
  visited := List.Subset.trans (List.subset_cons_self name _) h.visited
  covered := by
    refine ⟨by simp, fun n hn _ => ?_⟩
    have he : n = name := by simpa using hn
    exact h.visited (he ▸ List.mem_cons_self)
  thinned := h.thinned

/-- Both expansions of a text, one next to the other. -/
theorem once_advance (hbodies : ∀ name body, bodies name = some body → name ∈ stock)
    {fuel fuel' : ℕ} (hroom : Room stock fuel path) (hroom' : Room stock fuel' w.visited)
    (h : Settled bodies stock path w) (text : List (Step α)) :
    Advance bodies stock path w (once bodies fuel' text w) text (along bodies fuel path text) := by
  induction fuel generalizing fuel' path w text with
  | zero => exact absurd hroom.pos (by simp)
  | succ fuel ih =>
    obtain ⟨fuel', rfl⟩ := Nat.exists_eq_add_one.mpr hroom'.pos
    induction text generalizing w with
    | nil => simpa using Advance.refl h
    | cons step text iht =>
      have hstep : Advance bodies stock path w (once bodies (fuel' + 1) [step] w) [step]
          (along bodies (fuel + 1) path [step]) := by
        cases step with
        | say a => simpa [once, along] using Advance.say h a
        | enter name =>
          cases hbody : bodies name with
          | none => simpa [once, along, hbody] using Advance.missing h hbody
          | some body =>
            by_cases hvisited : name ∈ w.visited
            · simpa [once, hvisited] using Advance.again h hvisited hbody fuel
            · have hpath : name ∉ path := fun hp => hvisited (h.path_visited hp)
              have hname := hbodies name body hbody
              rw [along_enter bodies fuel hpath hbody, once_enter bodies fuel' hvisited hbody]
              exact Advance.leave hbody (ih (hroom.enter hname hpath)
                (hroom'.enter hname hvisited) (h.enter hname hvisited) body)
      rw [once_cons, along_cons]
      exact hstep.trans (iht hstep.settled (hroom'.once hbodies [step] w.said))

end

theorem LeadsTo.of_mem_along {bodies : Bodies α} {fuel : ℕ} {path : List String}
    {text : List (Step α)} {a : α} (h : a ∈ along bodies fuel path text) : LeadsTo bodies text a := by
  induction fuel generalizing path text with
  | zero => simp [along] at h
  | succ fuel ih =>
    simp only [along, List.mem_flatMap] at h
    obtain ⟨step, hstep, ha⟩ := h
    cases step with
    | say b =>
      have hab : a = b := by simpa using ha
      exact .here (hab ▸ hstep)
    | enter name =>
      by_cases hname : name ∈ path
      · simp [hname] at ha
      · cases hbody : bodies name with
        | none => simp [hname, hbody] at ha
        | some body =>
          simp only [hname, hbody, if_false] at ha
          exact .inside hstep hbody (ih ha)

/-- Cutting bodies on the way loses nothing. -/
theorem mem_along_iff {bodies : Bodies α} {stock : List String}
    (hbodies : ∀ name body, bodies name = some body → name ∈ stock) {text : List (Step α)} {a : α} :
    a ∈ along bodies (stock.length + 1) [] text ↔ LeadsTo bodies text a := by
  refine ⟨LeadsTo.of_mem_along, fun h => ?_⟩
  have hsettled : Settled bodies stock [] (⟨[], []⟩ : Walk α) :=
    ⟨by simp, by simp, by simp, by simp⟩
  have hwalk := once_advance hbodies (.initial stock) (.initial stock) hsettled text
  obtain ⟨new, hnew, hthin⟩ := hwalk.thinned
  have hclosed : ∀ t b, LeadsTo bodies t b →
      Covered bodies (once bodies (stock.length + 1) text ⟨[], []⟩) t →
      b ∈ (once bodies (stock.length + 1) text ⟨[], []⟩).said := by
    intro t b hlead
    induction hlead with
    | here hstep => exact fun ht => ht.said _ hstep
    | inside hstep hbody _ ih =>
      intro ht
      have hvisited := ht.entered _ hstep (by simp [hbody])
      exact ih (hwalk.settled.finished _ hvisited (by simp) _ hbody)
  have hsaid := hclosed text a h hwalk.covered
  rw [hnew] at hsaid
  exact hthin.subset (by simpa using hsaid)

end OperationClasses.Expansion
