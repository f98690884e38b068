import OperationClasses.Proofs.Naming.Annotations
import OperationClasses.Proofs.Syntax.TypeReferences

/-!
# Signatures

The text of a written reference is its signature. No other written reference has it, so an entry of
the table of overrides is for one reference only, and the name at the heart of the reference is the
only name in it. The parser turns it into the reference again unless there are too many lists, and
any text that is parsed is a signature with ignored characters in between.
-/
namespace OperationClasses

open Syntax

/-- One more entry in front of the table of overrides. -/
def Resolver.overriding (r : Resolver) (key spelled : String) : Resolver :=
  { r with overrides := (key, spelled) :: r.overrides }

namespace TypeRef

open Parse

variable {t : TypeRef}

theorem identifiers_nil : identifiers (String.ofList []) = [] := by
  simp [identifiers]

theorem identifiers_name {name : String} (h : isName name) : identifiers name = [name] := by
  have hplain : Plain name.toList := fun c hc => isNamePart_of_mem h hc
  rw [identifiers, List.splitOnP_eq_singleton (by simpa using hplain)]
  simp [ne_empty_of_isName h]

theorem identifiers_bangs (s : List Char) (isMarked : Bool) :
    identifiers (String.ofList (s ++ (bangs isMarked).flatMap Lexeme.spelling)) =
      identifiers (String.ofList s) := by
  cases isMarked with
  | false =>
    rw [bangs, if_neg (by simp), List.flatMap_nil, List.append_nil]
  | true =>
    have hmark : isNamePart '!' = false := rfl
    exact (identifiers_append hmark s []).trans (by rw [identifiers_nil, List.append_nil])

theorem name?_marked (t : TypeRef) (isMarked : Bool) : (t.marked isMarked).name? = t.name? := by
  cases isMarked <;> rfl

/-- The name at the heart of a reference is the only one in its text. -/
theorem Written.exists_identifiers_eq (ht : t.Written) :
    ∃ name, t.name? = some name ∧ identifiers (String.ofList t.chars) = [name] := by
  refine ht.of_listOf (motive := fun t =>
    ∃ name, t.name? = some name ∧ identifiers (String.ofList t.chars) = [name])
    (fun e he => ?_) fun e isMarked _ ih => ?_
  · obtain ⟨name, isMarked, hname, rfl⟩ := he.exists_marked
    refine ⟨name, name?_marked _ _, ?_⟩
    rw [chars_named, identifiers_bangs, String.ofList_toList, identifiers_name hname]
  · obtain ⟨name, hheart, hidentifiers⟩ := ih
    refine ⟨name, (name?_marked _ _).trans hheart, ?_⟩
    have hopen : isNamePart '[' = false := rfl
    have hclose : isNamePart ']' = false := rfl
    rw [chars_listOf, ← List.nil_append ('[' :: _), identifiers_append hopen, identifiers_nil,
      List.nil_append, identifiers_append hclose, hidentifiers,
      ← List.nil_append ((bangs isMarked).flatMap _), identifiers_bangs, identifiers_nil,
      List.append_nil]

/-- A text is that of one reference and of no other. -/
structure Tells (text : String) (t : TypeRef) : Prop where
  signature : t.signature? = some text
  unique : ∀ t' : TypeRef, t'.Written → t'.signature? = some text → t' = t
  /-- An entry under this text in the table of overrides is one for the reference. -/
  override : ∀ (r : Resolver) (spelled : String),
    (r.overriding text spelled).override? none t = some spelled
  /-- Other references do not see the entry. -/
  others : ∀ (r : Resolver) (spelled : String) (t' : TypeRef), t'.Written → t' ≠ t →
    (r.overriding text spelled).override? none t' = r.override? none t'
  /-- The only name in the text is the one at the heart of the reference. -/
  identifiers : ∃ name, t.name? = some name ∧ OperationClasses.identifiers text = [name]
  /-- The text is parsed as the reference if there are no more lists than levels may be open. -/
  parse : TypeRef.parse text =
    if t.listMarks.length ≤ levelLimit then .ok t else .error ⟨.tooDeep, levelLimit + 1, text⟩

theorem Written.tells (ht : t.Written) : Tells (String.ofList t.chars) t := by
  have hunique : ∀ t' : TypeRef, t'.Written →
      t'.signature? = some (String.ofList t.chars) → t' = t := by
    intro t' ht' hsame
    rw [ht'.signature?_eq, Option.some.injEq, String.ofList_inj] at hsame
    exact ht'.eq_of_chars_eq ht hsame
  refine ⟨ht.signature?_eq, hunique, fun r spelled => ?_, fun r spelled t' ht' hne => ?_,
    ht.exists_identifiers_eq, ht.parse_chars⟩
  · simp [Resolver.override?, Resolver.overriding, ht.key?_eq, ht.signature?_eq]
  · have hkey : (String.ofList t'.chars == String.ofList t.chars) = false :=
      beq_eq_false_iff_ne.mpr fun heq => hne (hunique t' ht' (heq ▸ ht'.signature?_eq))
    simp [Resolver.override?, Resolver.overriding, ht'.key?_eq, ht'.signature?_eq, List.lookup_cons,
      hkey]

/-- Every written reference is told by its text, which is parsed as this reference again unless it
has more lists than levels may be open. Every text that is parsed tells, without its ignored
characters, the reference that it is parsed as. -/
theorem exists_tells_and_tells_of_parse :
    (∀ t : TypeRef, t.Written → ∃ text, Tells text t) ∧
      ∀ (text : String) (t : TypeRef), TypeRef.parse text = .ok t →
        t.Written ∧ t.listMarks.length ≤ levelLimit ∧ Tells (significant text) t := by
  refine ⟨fun t ht => ⟨_, ht.tells⟩, fun text t h => ?_⟩
  obtain ⟨hwritten, hroom, hchars⟩ := exists_of_parse h
  exact ⟨hwritten, hroom, hchars ▸ hwritten.tells⟩

/-- A required list of required users. -/
def users : TypeRef := .nonNull (.list (.nonNull (.named (some "User"))))

theorem tells_users :
    users.Written ∧ (∃ text, Tells text users) ∧
      TypeRef.parse "[ User! ,]! # all" = .ok users ∧
      Tells (significant "[ User! ,]! # all") users := by
  have hwritten : users.Written := .nonNullList (.nonNullNamed (by decide))
  have htokens : (tokens "[ User! ,]! # all").map Token.lexeme = users.lexemes ++ [.finish] := by
    decide +kernel
  have hparse := hwritten.parse_of_lexemes (by decide) htokens
  exact ⟨hwritten, exists_tells_and_tells_of_parse.1 users hwritten, hparse,
    (exists_tells_and_tells_of_parse.2 _ users hparse).2.2⟩

theorem listMarks_foldl (marks : List Bool) (t : TypeRef) :
    (marks.foldl listOf t).listMarks = t.listMarks ++ marks := by
  induction marks generalizing t with
  | nil => simp
  | cons isMarked marks ih => rw [List.foldl_cons, ih, listMarks_listOf, List.append_assoc]; rfl

theorem Written.foldl (ht : t.Written) (marks : List Bool) : (marks.foldl listOf t).Written := by
  induction marks generalizing t with
  | nil => exact ht
  | cons isMarked marks ih =>
    refine ih ?_
    cases isMarked with
    | false => exact .list ht
    | true => exact .nonNullList ht

theorem chars_foldl (n : ℕ) (t : TypeRef) :
    ((List.replicate n false).foldl listOf t).chars =
      List.replicate n '[' ++ t.chars ++ List.replicate n ']' := by
  induction n generalizing t with
  | zero => simp
  | succ n ih =>
    rw [List.replicate_succ, List.foldl_cons, ih, chars_listOf, List.replicate_succ',
      List.replicate_succ]
    simp [bangs]

/-- A name inside one list more than levels may be open. -/
def deepList : TypeRef :=
  (List.replicate (levelLimit + 1) false).foldl listOf (.named (some "Int"))

/-- The name between brackets. -/
def deepText : String :=
  String.ofList (List.replicate (levelLimit + 1) '[' ++ "Int".toList ++
    List.replicate (levelLimit + 1) ']')

theorem parse_deepText :
    deepList.Written ∧ deepList.signature? = some deepText ∧
      TypeRef.parse deepText = .error ⟨.tooDeep, 201, deepText⟩ := by
  have hint : (TypeRef.named (some "Int")).Written := .named (by decide)
  have hwritten : deepList.Written := hint.foldl _
  have hcore : (TypeRef.named (some "Int")).chars = "Int".toList := by
    simp [chars, lexemes, Lexeme.spelling]
  have htext : String.ofList deepList.chars = deepText := by
    rw [deepList, chars_foldl, hcore, deepText]
  have hlength : ¬ deepList.listMarks.length ≤ levelLimit := by
    rw [deepList, listMarks_foldl]
    simp [listMarks]
  have hparse := hwritten.parse_chars
  rw [if_neg hlength, htext] at hparse
  exact ⟨hwritten, htext ▸ hwritten.signature?_eq, hparse⟩

end TypeRef

end OperationClasses
