import OperationClasses.Proofs.Payload.Carrying
import OperationClasses.Proofs.Syntax.Pieces

/-!
# Sent texts

The text that is sent for an operation of a document is a document of its own. It has the
operation and, behind it, the fragments that the operation uses, and carries all that merging
looks at.
-/
namespace OperationClasses.Payload

open Syntax Selection

/-- The fragments that selections use, in the order of a sent text. -/
def usedDefinitions (fragments : Fragments) (selections : List Syntax.Selection) : Fragments :=
  (usedFragments fragments selections).filterMap fragments.find?

variable {fragments : Fragments} {selections : List Syntax.Selection} {name : String}

theorem mem_usedDefinitions {f : Fragment} :
    f ∈ usedDefinitions fragments selections ↔
      Meets fragments selections f.name ∧ fragments.find? f.name = some f := by
  simp only [usedDefinitions, List.mem_filterMap, mem_usedFragments]
  constructor
  · rintro ⟨name, huses, hf⟩
    obtain rfl := Fragments.find?_name hf
    exact ⟨huses.1, hf⟩
  · rintro ⟨hmeets, hf⟩
    exact ⟨f.name, ⟨hmeets, by simp [hf]⟩, hf⟩

theorem map_name_usedDefinitions (fragments : Fragments) (selections : List Syntax.Selection) :
    (usedDefinitions fragments selections).map (·.name) = usedFragments fragments selections := by
  have hall : ∀ name ∈ usedFragments fragments selections, (fragments.find? name).isSome :=
    fun name hname => (mem_usedFragments.mp hname).2
  rw [usedDefinitions]
  revert hall
  induction usedFragments fragments selections with
  | nil => exact fun _ => rfl
  | cons name names ih =>
    intro hall
    obtain ⟨f, hf⟩ := Option.isSome_iff_exists.mp (hall name (by simp))
    have hmore := ih fun n hn => hall n (List.mem_cons_of_mem name hn)
    rw [List.filterMap_cons_some hf, List.map_cons, hmore, Fragments.find?_name hf]

theorem find?_usedDefinitions (hname : Meets fragments selections name) :
    Fragments.find? (usedDefinitions fragments selections) name = fragments.find? name := by
  cases h : Fragments.find? (usedDefinitions fragments selections) name with
  | some g =>
    obtain rfl := Fragments.find?_name h
    exact (mem_usedDefinitions.mp (Fragments.find?_mem h)).2.symm
  | none =>
    cases hf : fragments.find? name with
    | none => rfl
    | some f =>
      obtain rfl := Fragments.find?_name hf
      have hmem : f ∈ usedDefinitions fragments selections := mem_usedDefinitions.mpr ⟨hname, hf⟩
      simp only [Fragments.find?, List.find?_eq_none, List.mem_reverse, decide_eq_true_eq] at h
      exact absurd rfl (h f hmem)

/-- The used fragments are all that has to be carried. -/
theorem carries_usedDefinitions (fragments : Fragments) (selections : List Syntax.Selection) :
    Carries ((usedDefinitions fragments selections).map Fragment.unlocated) fragments
      selections := by
  intro name hname
  rw [← find?_usedDefinitions hname]
  exact find?_map_unlocated _ name

/-- All definitions of a list know the characters they were read from, and these are read as the
definitions again. -/
theorem exists_pieces {ds : List Definition} (h : ∀ d ∈ ds, ∃ piece, ReadsAs piece d) :
    ∃ pieces : List (List Char × Definition), pieces.map Prod.snd = ds ∧
      ∀ p ∈ pieces, ReadsAs p.1 p.2 := by
  choose! piece hpiece using h
  refine ⟨ds.map fun d => (piece d, d), by simp [Function.comp_def], ?_⟩
  rintro p hp
  obtain ⟨d, hd, rfl⟩ := List.mem_map.mp hp
  exact hpiece d hd

theorem text_of_readsAs {piece : List Char} {d : Definition} (h : ReadsAs piece d) :
    d.text = String.ofList piece := by
  rw [Definition.text, h.source, Option.getD_some]

theorem text_eq_intercalate (o : Operation) (fragments : Fragments) :
    text o fragments = "\n\n".intercalate ((Definition.operation o ::
      (usedDefinitions fragments o.selections).map .fragment).map Definition.text) := by
  rw [List.map_cons, List.map_map]
  rfl

/-- A sent text is made of the characters that its definitions were read from. -/
theorem text_eq_joined {o : Operation} {pieces : List (List Char × Definition)}
    (hdefinitions : pieces.map Prod.snd =
      .operation o :: (usedDefinitions fragments o.selections).map .fragment)
    (h : ∀ p ∈ pieces, ReadsAs p.1 p.2) : text o fragments = String.ofList (joined pieces) := by
  have hpieces : (pieces.map Prod.snd).map Definition.text =
      (pieces.map Prod.fst).map String.ofList := by
    rw [List.map_map, List.map_map]
    exact List.map_congr_left fun p hp => text_of_readsAs (h p hp)
  rw [text_eq_intercalate, ← hdefinitions, hpieces, ← String.toList_inj,
    String.toList_intercalate, String.toList_ofList, List.map_map]
  simp [joined, Function.comp_def]

theorem readsAs_of_mem {source : String} {doc : Document} (hdoc : Document.parse source = .ok doc)
    {o : Operation} (ho : .operation o ∈ doc) :
    ∀ d ∈ Definition.operation o ::
        (usedDefinitions (Fragments.ofDocument doc) o.selections).map .fragment,
      ∃ piece, ReadsAs piece d := by
  intro d hd
  rcases List.mem_cons.mp hd with rfl | hd
  · exact readsAs_of_mem_parse hdoc ho rfl
  · obtain ⟨f, hf, rfl⟩ := List.mem_map.mp hd
    have hmem : f ∈ Fragments.ofDocument doc := Fragments.find?_mem (mem_usedDefinitions.mp hf).2
    obtain ⟨d, hd, hfragment⟩ := List.mem_filterMap.mp hmem
    cases d with
    | fragment g =>
      cases hfragment
      exact readsAs_of_mem_parse hdoc hd rfl
    | _ => cases hfragment

theorem exists_operation_of_unlocated {d : Definition} {o : Operation}
    (h : d.unlocated = (Definition.operation o).unlocated) :
    ∃ o', d = .operation o' ∧ o'.unlocated = o.unlocated := by
  cases d with
  | operation o' => exact ⟨o', rfl, Definition.operation.inj h⟩
  | _ => cases h

theorem exists_fragments_of_unlocated {ds : List Definition} {fs : List Fragment}
    (h : ds.map Definition.unlocated = (fs.map Definition.fragment).map Definition.unlocated) :
    ∃ fs' : List Fragment, ds = fs'.map .fragment ∧
      fs'.map Fragment.unlocated = fs.map Fragment.unlocated := by
  induction ds generalizing fs with
  | nil =>
    obtain rfl : fs = [] := by simpa using h.symm
    exact ⟨[], rfl, rfl⟩
  | cons d ds ih =>
    cases fs with
    | nil => simp at h
    | cons f fs =>
      obtain ⟨hd, hds⟩ := List.cons.inj h
      obtain ⟨fs', rfl, hfs'⟩ := ih hds
      cases d with
      | fragment f' =>
        have hf' : f'.unlocated = f.unlocated := Definition.fragment.inj hd
        exact ⟨f' :: fs', rfl, by rw [List.map_cons, List.map_cons, hf', hfs']⟩
      | _ => cases hd

/-- A sent text is the document of its operation and the fragments this uses. -/
theorem parse_text {source : String} {doc : Document} (hdoc : Document.parse source = .ok doc)
    {o : Operation} (ho : .operation o ∈ doc) :
    ∃ (o' : Operation) (used' : List Fragment), Document.parse (text o (Fragments.ofDocument doc)) =
        .ok (.operation o' :: used'.map .fragment) ∧
      o'.unlocated = o.unlocated ∧
      used'.map Fragment.unlocated =
        (usedDefinitions (Fragments.ofDocument doc) o.selections).map Fragment.unlocated := by
  obtain ⟨pieces, hdefinitions, hpieces⟩ := exists_pieces (readsAs_of_mem hdoc ho)
  have hne : pieces ≠ [] := by
    rintro rfl
    cases hdefinitions
  obtain ⟨doc', hdoc', hsame⟩ := parse_joined hne hpieces
  rw [← text_eq_joined hdefinitions hpieces] at hdoc'
  have hunlocated : pieces.map (·.2.unlocated) = (pieces.map Prod.snd).map Definition.unlocated := by
    rw [List.map_map]
    rfl
  rw [hunlocated, hdefinitions] at hsame
  cases doc' with
  | nil => cases hsame
  | cons d ds =>
    obtain ⟨hd, hds⟩ := List.cons.inj hsame
    obtain ⟨o', rfl, ho'⟩ := exists_operation_of_unlocated hd
    obtain ⟨used', rfl, hused'⟩ := exists_fragments_of_unlocated hds
    exact ⟨o', used', hdoc', ho', hused'⟩

end OperationClasses.Payload
