import OperationClasses.Proofs.Syntax.Definitions
import OperationClasses.Proofs.Syntax.Slices

/-!
# Documents made of pieces

The characters that an executable definition was read from are a document of their own. Several
of them with blank lines between them are the document of these definitions.
-/
namespace OperationClasses.Syntax

open Parse

/-- Forgets where the parts of an executable definition stand. -/
def Definition.unlocated : Definition → Definition
  | .operation o => .operation o.unlocated
  | .fragment f => .fragment f.unlocated
  | .typeSystem d source? => .typeSystem d source?

@[simp] theorem Definition.source?_unlocated (d : Definition) : d.unlocated.source? = d.source? := by
  cases d <;> rfl

/-- A piece of text is read as a definition, wherever its tokens stand. -/
structure ReadsAs (piece : List Char) (d : Definition) : Prop where
  source : d.source? = some (String.ofList piece)
  spells : ∃ ts, Spells piece ts ∧ ∀ ts' behind, ts'.map Token.lexeme = ts.map Token.lexeme →
    ∃ d', definition (ts' ++ behind) = .ok (d', behind) ∧
      (d'.withSource d.source?).unlocated = d.unlocated

/-- An executable definition is read again wherever its tokens stand. -/
theorem definition_again {used behind : List Token} {d : Definition}
    (h : definition (used ++ behind) = .ok (d, behind)) (hd : d.isExecutable = true)
    {used' : List Token} (hused : used'.map Token.lexeme = used.map Token.lexeme)
    (behind' : List Token) (source? : Option String) :
    ∃ d', definition (used' ++ behind') = .ok (d', behind') ∧
      (d'.withSource source?).unlocated = (d.withSource source?).unlocated := by
  rcases definition_eq_ok h with ⟨o, rfl, ho⟩ | ⟨f, rfl, hf⟩ | hexecutable
  · obtain ⟨used₁, hsplit, -, hagain⟩ := reads_operation 0 0 _ _ o behind rfl ho
    obtain rfl : used = used₁ := List.append_cancel_right hsplit
    obtain ⟨o', hview, ho'⟩ := hagain used' behind' hused (by simp [Extent.closed]) (by simp)
    refine ⟨.operation o', definition_of_operation ho', ?_⟩
    simp only [Operation.unlocated, Operation.mk.injEq] at hview
    simp [Definition.withSource, Definition.unlocated, Operation.unlocated, hview]
  · obtain ⟨used₁, hsplit, -, hagain⟩ := reads_fragment 0 0 _ _ f behind rfl hf
    obtain rfl : used = used₁ := List.append_cancel_right hsplit
    obtain ⟨f', hview, hf'⟩ := hagain used' behind' hused (by simp [Extent.closed]) (by simp)
    refine ⟨.fragment f', definition_of_fragment hf', ?_⟩
    simp only [Fragment.unlocated, Fragment.mk.injEq] at hview
    simp [Definition.withSource, Definition.unlocated, Fragment.unlocated, hview]
  · rw [hd] at hexecutable
    cases hexecutable

theorem closes_definition {used behind : List Token} {d : Definition}
    (h : definition (used ++ behind) = .ok (d, behind)) (hd : d.isExecutable = true) :
    ∃ init last, used = init ++ [last] ∧ last.lexeme = .mark .closeBrace := by
  have hcloses : ∃ init last, used ++ behind = init ++ last :: behind ∧
      last.lexeme = .mark .closeBrace := by
    rcases definition_eq_ok h with ⟨o, rfl, ho⟩ | ⟨f, rfl, hf⟩ | hexecutable
    · exact closes_operation _ o behind ho
    · exact closes_fragment _ f behind hf
    · rw [hd] at hexecutable
      cases hexecutable
  obtain ⟨init, last, hsplit, hbrace⟩ := hcloses
  rw [← List.singleton_append (x := last), ← List.append_assoc] at hsplit
  exact ⟨init, last, List.append_cancel_right hsplit, hbrace⟩

@[simp] theorem Definition.source?_withSource (d : Definition) (source? : Option String) :
    (d.withSource source?).source? = source? := by
  cases d <;> rfl

@[simp] theorem Definition.isExecutable_withSource (d : Definition) (source? : Option String) :
    (d.withSource source?).isExecutable = d.isExecutable := by
  cases d <;> rfl

theorem run_eq_ok_iff {α : Type} {step : Parse α} {text : String} {x : α} :
    run step text = .ok x ↔ ∃ rest, step (tokens text) = .ok (x, rest) := by
  unfold run
  cases h : step (tokens text) with
  | error fault => simp
  | ok p => simp [Prod.ext_iff]

/-- A document is made of the definitions that are read from its tokens. -/
theorem parse_eq_ok_iff {text : String} {doc : Document} :
    Document.parse text = .ok doc ↔ ∃ ds rest,
      definitions (tokens text).length (tokens text) = .ok (ds, rest) ∧
      doc = ds.map fun (d, start, stop) => d.withSource (some (slice text start stop)) := by
  unfold Document.parse
  simp only [OperationClasses.bind_eq_ok, run_eq_ok_iff]
  constructor
  · rintro ⟨ds, ⟨rest, hds⟩, hdoc⟩
    exact ⟨ds, rest, hds, (Except.ok.inj hdoc).symm⟩
  · rintro ⟨ds, rest, hds, rfl⟩
    exact ⟨ds, ⟨rest, hds⟩, rfl⟩

/-- The executable definitions of a text are read again from their own characters. -/
theorem readsAs_of_mem_parse {text : String} {doc : Document} (h : Document.parse text = .ok doc)
    {d : Definition} (hmem : d ∈ doc) (hd : d.isExecutable = true) :
    ∃ piece, ReadsAs piece d := by
  obtain ⟨ds, rest, hds, rfl⟩ := parse_eq_ok_iff.mp h
  obtain ⟨y, hy, rfl⟩ := List.mem_map.mp hmem
  obtain ⟨front, used, behind, d, hsplit, hread, rfl⟩ := mem_of_definitions hds hy
  rw [Definition.isExecutable_withSource] at hd
  obtain ⟨init, last, hlast, hbrace⟩ := closes_definition hread hd
  obtain ⟨first, hfirst⟩ : ∃ first, used.head? = some first := by
    cases used with
    | nil => simp at hlast
    | cons first tail => exact ⟨first, rfl⟩
  have hlast' : used.getLast? = some last := by simp [hlast]
  obtain ⟨ts, hts, hspells⟩ := exists_spells hsplit hfirst hlast' hbrace
  refine ⟨_, ?_, ts, hspells, fun ts' behind' hts' => ?_⟩
  · simp [slice, startOf, stopOf, hfirst, hlast']
  · obtain ⟨d', hd', hview⟩ := definition_again hread hd (hts'.trans hts) behind'
      (some (slice text (startOf used) (stopOf used)))
    exact ⟨d', hd', by simpa using hview⟩

/-- The kind of a parsed operation is one of the three. -/
theorem kind_of_mem_parse {text : String} {doc : Document} (h : Document.parse text = .ok doc)
    {o : Operation} (ho : .operation o ∈ doc) : ∃ kind, o.kind = .parsed kind := by
  obtain ⟨ds, rest, hds, rfl⟩ := parse_eq_ok_iff.mp h
  obtain ⟨y, hy, hsource⟩ := List.mem_map.mp ho
  obtain ⟨front, used, behind, d, -, hread, rfl⟩ := mem_of_definitions hds hy
  cases d with
  | operation o' =>
    obtain ⟨kind, hkind⟩ := kind_of_operation (operation_of_definition hread)
    rw [← Definition.operation.inj hsource]
    exact ⟨kind, hkind⟩
  | _ => cases hsource

theorem slice_append (front piece behind : List Char) :
    slice (String.ofList (front ++ (piece ++ behind))) front.length (front.length + piece.length) =
      String.ofList piece := by
  simp [slice]

theorem tokensFrom_blank_line (off : ℕ) (s : List Char) :
    tokensFrom off ('\n' :: '\n' :: s) = tokensFrom (off + 2) s := by
  have hscan : ∀ rest, scan '\n' rest = .skip 0 := fun rest => rfl
  rw [tokensFrom_of_skip (hscan _), List.drop_zero, tokensFrom_of_skip (hscan _), List.drop_zero]

theorem nextLexeme_of_definitions {n : ℕ} {ts rest : List Token}
    {ds : List (Definition × ℕ × ℕ)} (h : definitions n ts = .ok (ds, rest)) :
    nextLexeme ts ≠ .finish ∧ ∀ f, nextLexeme ts ≠ .broken f := by
  cases n with
  | zero =>
    obtain ⟨t, mid, -, hrest⟩ := bind_eq_ok_iff.mp h
    cases hrest
  | succ n =>
    obtain ⟨first, mid, hfirst, -⟩ := bind_eq_ok_iff.mp h
    obtain ⟨used, d, -, hd, -⟩ := exists_of_spanned shrinks_definition hfirst
    exact nextLexeme_of_definition hd

/-- The last definition of a document. -/
theorem definitions_last {n : ℕ} {used : List Token} {d : Definition} {t : Token}
    (h : definition (used ++ [t]) = .ok (d, [t])) (ht : t.lexeme = .finish) :
    definitions (n + 1) (used ++ [t]) = .ok ([(d, startOf used, stopOf used)], [t]) := by
  have hcurrent : current [t] = .ok (t, [t]) := sound_eq_ok (by simp [ht])
  unfold definitions
  rw [bind_of_eq_ok (spanned_append h), bind_of_eq_ok hcurrent, ht]
  rfl

/-- A definition with others behind it. -/
theorem definitions_cons {n : ℕ} {used mid rest : List Token} {d : Definition}
    {ds : List (Definition × ℕ × ℕ)} (h : definition (used ++ mid) = .ok (d, mid))
    (hds : definitions n mid = .ok (ds, rest)) :
    definitions (n + 1) (used ++ mid) = .ok ((d, startOf used, stopOf used) :: ds, rest) := by
  obtain ⟨hfinish, hunbroken⟩ := nextLexeme_of_definitions hds
  obtain ⟨t, ht, hlexeme⟩ := exists_current hunbroken
  have hnot : (t.lexeme == .finish) = false := by
    rw [beq_eq_false_iff_ne, hlexeme]
    exact hfinish
  unfold definitions
  rw [bind_of_eq_ok (spanned_append h), bind_of_eq_ok ht, hnot, if_neg (by simp)]
  exact bind_pure_eq_ok_iff.mpr ⟨ds, hds, rfl⟩

/-- What a definition that was read and the place of its tokens have to be, for a piece of text
with some definition in it. -/
def Matches (text : List Char) (y : Definition × ℕ × ℕ) (p : List Char × Definition) : Prop :=
  (y.1.withSource (some (slice (String.ofList text) y.2.1 y.2.2))).unlocated = p.2.unlocated

/-- A piece of text behind others, and what is behind it. -/
theorem exists_definition_of_piece {piece : List Char} {d : Definition} (h : ReadsAs piece d)
    (front behind : List Char) :
    ∃ used d', 0 < used.length ∧ tokensFrom front.length (piece ++ behind) =
        used ++ tokensFrom (front.length + piece.length) behind ∧
      definition (used ++ tokensFrom (front.length + piece.length) behind) =
        .ok (d', tokensFrom (front.length + piece.length) behind) ∧
      Matches (front ++ (piece ++ behind)) (d', startOf used, stopOf used) (piece, d) := by
  obtain ⟨ts, hspells, hagain⟩ := h.spells
  obtain ⟨d', hd', hview⟩ := hagain (ts.map (Token.behind front.length))
    (tokensFrom (front.length + piece.length) behind) (by simp [Function.comp_def])
  obtain ⟨t, ht, hstart⟩ := Option.map_eq_some_iff.mp hspells.start
  obtain ⟨t', ht', hstop⟩ := Option.map_eq_some_iff.mp hspells.stop
  have hpos : 0 < (ts.map (Token.behind front.length)).length := by
    obtain ⟨tail, rfl⟩ := List.head?_eq_some_iff.mp ht
    simp
  refine ⟨_, d', hpos, hspells.tokensFrom_append front.length behind, hd', ?_⟩
  rw [h.source] at hview
  simp only [Matches, startOf, stopOf, List.head?_map, ht, List.getLast?_map, ht', Option.map_some,
    Option.getD_some, Token.behind_start, Token.behind_stop, hstart, hstop, Nat.zero_add,
    Nat.add_comm piece.length, slice_append]
  exact hview

/-- The text of several pieces, with a blank line between each two of them. -/
def joined (pieces : List (List Char × Definition)) : List Char :=
  ['\n', '\n'].intercalate (pieces.map Prod.fst)

@[simp] theorem joined_singleton (p : List Char × Definition) : joined [p] = p.1 := by
  simp [joined]

@[simp] theorem joined_cons_cons (p q : List Char × Definition)
    (pieces : List (List Char × Definition)) :
    joined (p :: q :: pieces) = p.1 ++ '\n' :: '\n' :: joined (q :: pieces) := by
  simp [joined]

theorem length_le_tokensFrom_joined {pieces : List (List Char × Definition)}
    (h : ∀ p ∈ pieces, ReadsAs p.1 p.2) (front : List Char) :
    pieces.length ≤ (tokensFrom front.length (joined pieces)).length := by
  induction pieces generalizing front with
  | nil => simp
  | cons p pieces ih =>
    have hp : ReadsAs p.1 p.2 := h p (by simp)
    cases pieces with
    | nil =>
      obtain ⟨used, d', hpos, htokens, -⟩ := exists_definition_of_piece hp front []
      rw [List.append_nil] at htokens
      rw [joined_singleton, htokens, List.length_append, List.length_singleton]
      omega
    | cons q pieces =>
      obtain ⟨used, d', hpos, htokens, -⟩ :=
        exists_definition_of_piece hp front ('\n' :: '\n' :: joined (q :: pieces))
      have hmore := ih (fun x hx => h x (List.mem_cons_of_mem p hx)) (front ++ (p.1 ++ ['\n', '\n']))
      have hlength : (front ++ (p.1 ++ ['\n', '\n'])).length = front.length + p.1.length + 2 := by
        simp
        omega
      rw [hlength] at hmore
      rw [joined_cons_cons, htokens, tokensFrom_blank_line, List.length_append, List.length_cons]
      omega

/-- Joined pieces are read one behind the other. -/
theorem definitions_joined {pieces : List (List Char × Definition)} (hne : pieces ≠ [])
    (h : ∀ p ∈ pieces, ReadsAs p.1 p.2) (front : List Char) {n : ℕ} (hn : pieces.length ≤ n) :
    ∃ ds rest, definitions n (tokensFrom front.length (joined pieces)) = .ok (ds, rest) ∧
      List.Forall₂ (Matches (front ++ joined pieces)) ds pieces := by
  induction pieces generalizing front n with
  | nil => exact absurd rfl hne
  | cons p pieces ih =>
    have hp : ReadsAs p.1 p.2 := h p (by simp)
    obtain ⟨n, rfl⟩ : ∃ k, n = k + 1 := ⟨n - 1, by simp at hn; omega⟩
    cases pieces with
    | nil =>
      obtain ⟨used, d', -, htokens, hd', hmatches⟩ := exists_definition_of_piece hp front []
      have hend : tokensFrom (front.length + p.1.length) [] =
          [⟨.finish, front.length + p.1.length, front.length + p.1.length⟩] := by
        rw [tokensFrom]
      rw [hend] at htokens hd'
      rw [List.append_nil] at htokens hmatches
      rw [joined_singleton, htokens]
      exact ⟨_, _, definitions_last hd' rfl, .cons hmatches .nil⟩
    | cons q pieces =>
      obtain ⟨used, d', -, htokens, hd', hmatches⟩ :=
        exists_definition_of_piece hp front ('\n' :: '\n' :: joined (q :: pieces))
      obtain ⟨ds, rest, hds, hall⟩ := ih (by simp) (fun x hx => h x (List.mem_cons_of_mem p hx))
        (front ++ (p.1 ++ ['\n', '\n'])) (n := n) (by simpa using hn)
      have hlength : (front ++ (p.1 ++ ['\n', '\n'])).length = front.length + p.1.length + 2 := by
        simp
        omega
      rw [hlength] at hds
      rw [tokensFrom_blank_line] at htokens hd'
      rw [joined_cons_cons, htokens]
      refine ⟨_, rest, definitions_cons hd' hds, .cons hmatches ?_⟩
      simpa using hall

/-- The text of several pieces is a document of their definitions. -/
theorem parse_joined {pieces : List (List Char × Definition)} (hne : pieces ≠ [])
    (h : ∀ p ∈ pieces, ReadsAs p.1 p.2) :
    ∃ doc, Document.parse (String.ofList (joined pieces)) = .ok doc ∧
      doc.map Definition.unlocated = pieces.map (·.2.unlocated) := by
  have hbound := length_le_tokensFrom_joined h []
  obtain ⟨ds, rest, hds, hall⟩ := definitions_joined hne h [] hbound
  rw [List.length_nil] at hds
  refine ⟨_, parse_eq_ok_iff.mpr ⟨ds, rest, ?_, rfl⟩, ?_⟩
  · simpa [tokens] using hds
  · rw [List.map_map, ← List.forall₂_eq_eq_eq, List.forall₂_map_left_iff,
      List.forall₂_map_right_iff]
    exact hall

end OperationClasses.Syntax
