import Mathlib.Data.List.Infix
import Mathlib.Data.List.TakeWhile
import OperationClasses.Proofs.Layout.ClassLines
import OperationClasses.Proofs.Syntax.Lookahead

/-!
# Reading by indentation

Under a line of Python stands all that follows it and is indented further. Read in this way, the
text of a class is one block: its first line names the class, the blocks under it are the classes
nested in it and its properties. A property is told by its name, its annotation, the alias and
whether there is a default.
-/
namespace OperationClasses.Layout

open Text Response

/-- A line and what stands under it. -/
inductive Block where
  | mk (line : Line) (body : List Block)

def Block.line : Block → Line
  | mk line _ => line

/-- Under each line stand the lines behind it that are indented further. -/
def blocks : List Line → List Block
  | [] => []
  | l :: ls =>
    let rest := blocks ls
    .mk l (rest.takeWhile fun b => l.indentation < b.line.indentation) ::
      rest.dropWhile fun b => l.indentation < b.line.indentation

theorem line_mem_of_mem_blocks {ls : List Line} {b : Block} (h : b ∈ blocks ls) : b.line ∈ ls := by
  induction ls with
  | nil => cases h
  | cons l ls ih =>
    rw [blocks] at h
    rcases List.mem_cons.mp h with rfl | h
    · exact List.mem_cons_self
    · exact List.mem_cons_of_mem _ (ih ((List.dropWhile_sublist _).mem h))

theorem head?_blocks (ls : List Line) : (blocks ls).head?.map Block.line = ls.head? := by
  cases ls <;> rfl

theorem isEmpty_blocks {ls : List Line} (h : ls ≠ []) : (blocks ls).isEmpty = false := by
  cases ls with
  | nil => exact absurd rfl h
  | cons l ls => rfl

/-- A line with all that is indented further is a block. -/
theorem blocks_cons {l : Line} {body : List Line}
    (h : ∀ line ∈ body, l.indentation < line.indentation) :
    blocks (l :: body) = [.mk l (blocks body)] := by
  have hdeeper : ∀ b ∈ blocks body, decide (l.indentation < b.line.indentation) = true :=
    fun b hb => decide_eq_true (h _ (line_mem_of_mem_blocks hb))
  rw [blocks, List.takeWhile_eq_self_iff.mpr hdeeper, List.dropWhile_eq_nil_iff.mpr hdeeper]

/-- Lines of a part of a text that begins at a column and stays to the right of it. -/
structure StartsAt (k : ℕ) (ls : List Line) : Prop where
  right : ∀ l ∈ ls, k ≤ l.indentation
  head : ∀ l, ls.head? = some l → l.indentation = k

/-- What begins where a line does, or to the left of it, does not stand under the line. -/
theorem blocks_append {k : ℕ} {ls rest : List Line} (h : ∀ l ∈ ls, k ≤ l.indentation)
    (hrest : StartsAt k rest) : blocks (ls ++ rest) = blocks ls ++ blocks rest := by
  induction ls with
  | nil => rfl
  | cons l ls ih =>
    obtain ⟨hl, hls⟩ := List.forall_mem_cons.mp h
    have hstop : ∀ b, (blocks rest).head? = some b →
        decide (l.indentation < b.line.indentation) = false := by
      intro b hb
      have hline := head?_blocks rest
      rw [hb] at hline
      have := hrest.head b.line hline.symm
      exact decide_eq_false (by omega)
    rw [List.cons_append, blocks, blocks, ih hls, Syntax.takeWhile_append_of_head? hstop,
      Syntax.dropWhile_append_of_head? hstop, List.cons_append]

theorem StartsAt.append {k : ℕ} {ls ls' : List Line} (h : StartsAt k ls) (h' : StartsAt k ls') :
    StartsAt k (ls ++ ls') := by
  refine ⟨List.forall_mem_append.mpr ⟨h.right, h'.right⟩, fun l hl => ?_⟩
  cases ls with
  | nil => exact h'.head l hl
  | cons first ls => exact h.head l hl

theorem startsAt_flatten {k : ℕ} {lss : List (List Line)} (h : ∀ ls ∈ lss, StartsAt k ls) :
    StartsAt k lss.flatten := by
  induction lss with
  | nil => exact ⟨by simp, by simp⟩
  | cons ls lss ih =>
    obtain ⟨hls, hrest⟩ := List.forall_mem_cons.mp h
    exact hls.append (ih hrest)

theorem blocks_flatten {k : ℕ} {lss : List (List Line)} (h : ∀ ls ∈ lss, StartsAt k ls) :
    blocks lss.flatten = (lss.map blocks).flatten := by
  induction lss with
  | nil => rfl
  | cons ls lss ih =>
    obtain ⟨hls, hrest⟩ := List.forall_mem_cons.mp h
    rw [List.flatten_cons, blocks_append hls.right (startsAt_flatten hrest), ih hrest]
    rfl

theorem startsAt_atLevel (d : ℕ) (texts : List String) : StartsAt (4 * d) (atLevel d texts) := by
  have hall : ∀ l ∈ atLevel d texts, l.indentation = 4 * d := by
    intro l hl
    obtain ⟨text, -, rfl⟩ := List.mem_map.mp hl
    rfl
  exact ⟨fun l hl => (hall l hl).ge, fun l hl => hall l (List.mem_of_mem_head? hl)⟩

theorem blocks_atLevel (d : ℕ) (texts : List String) :
    blocks (atLevel d texts) = texts.map fun text => .mk ⟨4 * d, text⟩ [] := by
  induction texts with
  | nil => rfl
  | cons text texts ih =>
    have hsplit : atLevel d (text :: texts) = [⟨4 * d, text⟩] ++ atLevel d texts := rfl
    rw [hsplit, blocks_append (by simp) (startsAt_atLevel d texts), ih]
    rfl

namespace Python

/-- What a class of Python tells about a property. -/
structure Declaration where
  name : String
  annotation : String
  /-- The name it stands for, if that is another one. -/
  alias? : Option String
  hasDefault : Bool
  deriving Repr, DecidableEq

/-- What there is to tell about a property. -/
def told (p : Property) : Declaration :=
  ⟨p.name, p.type, if p.name = p.graphqlName then none else some p.graphqlName, !p.required⟩

/-- What a call begins with that gives an alias, and one that gives a default too. -/
def fieldCall : List Char := " = Field(".toList

def defaultCall : List Char := " = Field(default=None, ".toList

def aliasKey : List Char := "alias".toList

/-- What an alias looks like, with the end of the call around it. -/
def aliasText (name : String) : List Char := aliasKey ++ '=' :: ((escaped name).toList ++ [')'])

/-- The name that an alias gives in a call that has a certain beginning and nothing behind it. -/
def alias? (call s : List Char) : Option String := do
  let value ← s.dropPrefix? (call ++ (aliasKey ++ ['=']))
  let (name, _) ← PythonModule.textLiteral? value
  if s = call ++ aliasText name then some name else none

/-- An alias and whether there is a default, from all that follows an annotation. -/
def initial? (s : List Char) : Option (Option String × Bool) :=
  if s = [] then some (none, false)
  else if s = " = None".toList then some (none, true)
  else ((alias? fieldCall s).map fun name => (some name, false)).or
    ((alias? defaultCall s).map fun name => (some name, true))

/-- A text up to the first place where the rest is of some kind, and the rest. -/
def splitBefore (isRest : List Char → Bool) : List Char → List Char × List Char
  | [] => ([], [])
  | c :: s =>
    if isRest (c :: s) then ([], c :: s)
    else (c :: (splitBefore isRest s).1, (splitBefore isRest s).2)

/-- The declaration on a line. An annotation in quotes is a literal; one without quotes ends where a
default or an alias is all that follows. -/
def declaration? (quoted : Bool) (text : String) : Option Declaration := do
  let (name, rest) := splitBefore ": ".toList.isPrefixOf text.toList
  let rest ← rest.dropPrefix? ": ".toList
  let (type, behind) ←
    if quoted then PythonModule.textLiteral? rest
    else
      let (type, behind) := splitBefore (fun s => (initial? s).isSome) rest
      some (String.ofList type, behind)
  let (alias?, hasDefault) ← initial? behind
  return ⟨String.ofList name, type, alias?, hasDefault⟩

/-- The name of the class that a line opens. -/
def className? (text : String) : Option String := do
  let rest ← text.toList.dropPrefix? "class ".toList
  let name ← rest.dropSuffix? "(GraphQLModel):".toList
  return String.ofList name

mutual

/-- What a block in the body of a class declares. -/
def member? (quoted : Bool) : Block → Option (List (Member Declaration))
  | .mk line body =>
    if body.isEmpty then
      if line.text = "pass" then some []
      else (declaration? quoted line.text).map fun d => [.property d]
    else do
      let name ← className? line.text
      let inner ← members? false body
      return [.nested name inner]

/-- What a class declares whose body is given. Only a class at the level of the module has its own
annotations in quotes. -/
def members? (quoted : Bool) : List Block → Option (List (Member Declaration))
  | [] => some []
  | b :: bs => do
    let first ← member? quoted b
    let rest ← members? quoted bs
    return first ++ rest

end

/-- The class that a text declares, its own annotations in quotes or without. -/
def read? (quoted : Bool) (s : String) : Option (Member Declaration) :=
  match blocks (code "# " s) with
  | [.mk line body] => do
    let name ← className? line.text
    let inner ← members? quoted body
    if body.isEmpty then none else return .nested name inner
  | _ => none

/-- Where nothing of a kind begins in front, the first place is the one where the rest begins. -/
theorem splitBefore_append {isRest : List Char → Bool} {front back : List Char}
    (hfront : ∀ behind, behind <:+ front → behind ≠ [] → isRest (behind ++ back) = false)
    (hback : back = [] ∨ isRest back = true) :
    splitBefore isRest (front ++ back) = (front, back) := by
  induction front with
  | nil =>
    cases back with
    | nil => rfl
    | cons c back => rw [List.nil_append, splitBefore, if_pos (hback.resolve_left (by simp))]
  | cons c front ih =>
    have hnone : ¬ isRest (c :: (front ++ back)) = true := by
      simpa using hfront _ (List.suffix_refl _) (by simp)
    rw [List.cons_append, splitBefore, if_neg hnone,
      ih fun behind hbehind => hfront behind (hbehind.trans (List.suffix_cons c front))]

/-- A text does not begin with a mark of two characters in front of another one unless it begins
with it there, or its last character and the first behind it make up the mark. -/
theorem not_prefix_append {a b : Char} {front back : List Char} (hmark : ¬ [a, b] <+: front)
    (hback : back.head? ≠ some b) (hne : front ≠ []) : ¬ [a, b] <+: front ++ back := by
  match front with
  | [] => exact absurd rfl hne
  | [c] =>
    rintro ⟨rest, hrest⟩
    obtain ⟨-, rfl⟩ : a = c ∧ b :: rest = back := by simpa using hrest
    exact hback rfl
  | c :: d :: front =>
    intro hprefix
    obtain ⟨rfl, rfl⟩ : a = c ∧ b = d := by simpa using hprefix
    exact hmark ⟨front, rfl⟩

theorem append_aliasText (front : List Char) (name : String) : front ++ aliasText name =
    (front ++ (aliasKey ++ ['='])) ++ ((escaped name).toList ++ [')']) := by
  simp only [aliasText, List.append_assoc, List.singleton_append]

theorem getLast?_aliasText (front : List Char) (name : String) :
    (front ++ aliasText name).getLast? = some ')' := by
  rw [append_aliasText, List.getLast?_append_of_ne_nil _ (by simp), List.getLast?_concat]

theorem alias?_aliasText (call : List Char) (name : String) :
    alias? call (call ++ aliasText name) = some name := by
  have hquote : [')'].head? ≠ some (quoteFor name.toList) := by
    rcases quoteFor_cases name.toList with h | h <;> rw [h] <;> decide
  have hvalue : (call ++ aliasText name).dropPrefix? (call ++ (aliasKey ++ ['='])) =
      some ((escaped name).toList ++ [')']) := by
    rw [append_aliasText]
    exact dropPrefix?_append ..
  simp only [alias?, hvalue, Option.bind_eq_bind, Option.bind_some,
    PythonModule.textLiteral?_escaped name [')'] hquote, if_true]

theorem eq_of_alias? {call s : List Char} {name : String} (h : alias? call s = some name) :
    s = call ++ aliasText name := by
  simp only [alias?, Option.bind_eq_bind, Option.bind_eq_some_iff] at h
  obtain ⟨value, -, ⟨graphqlName, behind⟩, -, h⟩ := h
  split at h
  · next heq => rw [heq, Option.some.inj h]
  · cases h

theorem initial_eq (p : Property) : (initial p).toList =
    if p.name ≠ p.graphqlName then
      (if p.required then fieldCall else defaultCall) ++ aliasText p.graphqlName
    else if p.required then [] else " = None".toList := by
  have hcall : " = Field(".toList ++ ("default=None, ".toList ++ "alias=".toList) =
      defaultCall ++ (aliasKey ++ ['=']) := by decide
  have hfield : " = Field(".toList ++ "alias=".toList = fieldCall ++ (aliasKey ++ ['=']) := by
    decide
  have hclose : ")".toList = [')'] := rfl
  rw [append_aliasText]
  unfold initial
  split
  · cases p.required with
    | true =>
      rw [if_pos rfl, if_pos rfl, ← hfield]
      simp only [String.toList_append, String.append_empty, List.append_assoc, hclose]
    | false =>
      rw [if_neg Bool.false_ne_true, if_neg Bool.false_ne_true, ← hcall]
      simp only [String.toList_append, List.append_assoc, hclose]
  · split <;> rfl

/-- What follows an annotation, by the property. -/
theorem initial_cases (p : Property) :
    (p.name = p.graphqlName ∧ p.required = true) ∧ (initial p).toList = [] ∨
      (initial p).toList = " = None".toList ∨
      ∃ call ∈ [fieldCall, defaultCall], (initial p).toList = call ++ aliasText p.graphqlName := by
  rw [initial_eq]
  split_ifs with hname hrequired hrequired
  · exact .inr (.inr ⟨fieldCall, by simp, rfl⟩)
  · exact .inr (.inr ⟨defaultCall, by simp, rfl⟩)
  · exact .inl ⟨⟨not_not.mp hname, hrequired⟩, rfl⟩
  · exact .inr (.inl rfl)

/-- A call is neither nothing nor a default alone. -/
theorem initial?_call {call : List Char} (hcall : call ∈ [fieldCall, defaultCall]) (s : List Char) :
    initial? (call ++ s) = ((alias? fieldCall (call ++ s)).map fun name => (some name, false)).or
      ((alias? defaultCall (call ++ s)).map fun name => (some name, true)) := by
  have hprefix : ∀ call ∈ [fieldCall, defaultCall], call ≠ [] ∧ ¬ call <+: " = None".toList := by
    decide
  obtain ⟨hne, hnone⟩ := hprefix call hcall
  rw [initial?, if_neg (List.append_ne_nil_of_left_ne_nil hne s),
    if_neg fun heq => hnone ⟨s, heq⟩]

theorem alias?_defaultCall (name : String) :
    alias? fieldCall (defaultCall ++ aliasText name) = none := by
  refine Option.eq_none_iff_forall_not_mem.mpr fun other hother => ?_
  have hcall : fieldCall ++ (aliasKey ++ ['=']) <+: defaultCall ++ aliasText name := by
    rw [eq_of_alias? hother, append_aliasText]
    exact List.prefix_append ..
  have hnot : ¬ fieldCall ++ (aliasKey ++ ['=']) <+: defaultCall := by decide
  exact hnot (List.prefix_of_prefix_length_le hcall (List.prefix_append ..) (by decide))

theorem initial?_initial (p : Property) :
    initial? (initial p).toList = some ((told p).alias?, (told p).hasDefault) := by
  rw [initial_eq, told]
  by_cases hname : p.name = p.graphqlName
  · rw [if_neg (not_not_intro hname), if_pos hname]
    cases p.required <;> rfl
  · rw [if_pos hname, if_neg hname]
    cases p.required with
    | true =>
      rw [if_pos rfl, initial?_call (by simp), alias?_aliasText]
      rfl
    | false =>
      rw [if_neg Bool.false_ne_true, initial?_call (by simp), alias?_defaultCall, alias?_aliasText]
      rfl

/-- Only what is written as a default or an alias is read as one. -/
theorem eq_of_initial? {s : List Char} {read : Option String × Bool} (h : initial? s = some read) :
    s = [] ∨ s = " = None".toList ∨
      ∃ call ∈ [fieldCall, defaultCall], ∃ name, s = call ++ aliasText name := by
  unfold initial? at h
  split at h
  · next hnil => exact .inl hnil
  split at h
  · next hnone => exact .inr (.inl hnone)
  rw [Option.or_eq_some_iff, Option.map_eq_some_iff, Option.map_eq_some_iff] at h
  rcases h with ⟨name, hname, -⟩ | ⟨-, name, hname, -⟩
  · exact .inr (.inr ⟨fieldCall, by simp, name, eq_of_alias? hname⟩)
  · exact .inr (.inr ⟨defaultCall, by simp, name, eq_of_alias? hname⟩)

/-- An alias does not end in another one. -/
theorem eq_nil_of_aliasText {front : List Char} {name name' : String}
    (h : aliasText name = front ++ aliasText name') : front = [] := by
  have hvalue : (aliasKey ++ ['=']) ++ (escaped name).toList =
      (front ++ aliasKey) ++ '=' :: (escaped name').toList := by
    refine (List.append_left_inj [')']).mp ?_
    simpa only [aliasText, List.append_assoc, List.nil_append, List.cons_append] using h
  have hliteral := PythonModule.escaped_ne_append_escaped name name'
  rcases List.append_eq_append_iff.mp hvalue with ⟨z, -, hz⟩ | ⟨z, hfront, hz⟩
  · exact hliteral z hz |>.elim
  · cases z with
    | nil => exact hliteral [] (by simpa using hz.symm) |>.elim
    | cons c z =>
      have hlength := congrArg List.length hfront
      simp only [List.length_append, List.length_cons, List.length_nil] at hlength
      exact List.eq_nil_of_length_eq_zero (by omega)

theorem eq_append_of_aliasText {front call : List Char} {name name' : String}
    (h : front ++ aliasText name = call ++ aliasText name') : front = call := by
  rcases List.append_eq_append_iff.mp h with ⟨rest, hcall, hrest⟩ | ⟨rest, hfront, hrest⟩
  · rw [hcall, eq_nil_of_aliasText hrest, List.append_nil]
  · rw [hfront, eq_nil_of_aliasText hrest, List.append_nil]

/-- With something more in front, a default or an alias is none any more. -/
theorem initial?_append {front : List Char} (hfront : front ≠ []) {p : Property}
    (h : p.required = true → p.name = p.graphqlName → initial? front = none) :
    initial? (front ++ (initial p).toList) = none := by
  have hlast : (front ++ " = None".toList).getLast? = some 'e' := by
    rw [List.getLast?_append_of_ne_nil _ (by decide)]
    decide
  have hcalls : ∀ call ∈ [fieldCall, defaultCall], ∀ other ∈ [fieldCall, defaultCall],
      other <:+ call → other = call := by
    decide
  rcases initial_cases p with ⟨⟨hname, hrequired⟩, hinitial⟩ | hinitial | ⟨other, hother, hinitial⟩
  all_goals rw [hinitial]
  · rw [List.append_nil]
    exact h hrequired hname
  · refine Option.eq_none_iff_forall_not_mem.mpr fun read hread => ?_
    rcases eq_of_initial? hread with hnil | hnone | ⟨call, -, name, hcall⟩
    · exact hfront (List.append_eq_nil_iff.mp hnil).1
    · exact hfront (List.append_left_eq_self.mp hnone)
    · rw [hcall, getLast?_aliasText] at hlast
      exact absurd hlast (by decide)
  · refine Option.eq_none_iff_forall_not_mem.mpr fun read hread => ?_
    rw [← List.append_assoc] at hread
    rcases eq_of_initial? hread with hnil | hnone | ⟨call, hcall, name, heq⟩
    · exact hfront (List.append_eq_nil_iff.mp (List.append_eq_nil_iff.mp hnil).1).1
    · have hend := getLast?_aliasText (front ++ other) p.graphqlName
      rw [hnone] at hend
      exact absurd hend (by decide)
    · have hfound : front ++ other = call := eq_append_of_aliasText heq
      obtain rfl := hcalls call hcall other hother ⟨front, hfound⟩
      exact hfront (List.append_left_eq_self.mp hfound)

/-- What makes the declaration of a property legible: nothing in its name ends the name or makes a
comment of the line, and a type with neither quotes nor anything behind it does not end like a
default or an alias. -/
structure Declarable (quoted : Bool) (p : Property) : Prop where
  name : ¬ ": ".toList <:+: p.name.toList
  mark : ¬ "# ".toList <+: p.name.toList
  type : quoted = false → p.required = true → p.name = p.graphqlName →
    ∀ behind ∈ p.type.toList.tails, behind ≠ [] → initial? behind = none

instance (quoted : Bool) (p : Property) : Decidable (Declarable quoted p) :=
  decidable_of_iff (¬ ": ".toList <:+: p.name.toList ∧ ¬ "# ".toList <+: p.name.toList ∧
      (quoted = false → p.required = true → p.name = p.graphqlName →
        ∀ behind ∈ p.type.toList.tails, behind ≠ [] → initial? behind = none))
    ⟨fun ⟨hname, hmark, htype⟩ => ⟨hname, hmark, htype⟩, fun h => ⟨h.name, h.mark, h.type⟩⟩

theorem splitBefore_name {p : Property} (hname : ¬ ": ".toList <:+: p.name.toList)
    (rest : List Char) :
    splitBefore ": ".toList.isPrefixOf (p.name.toList ++ (": ".toList ++ rest)) =
      (p.name.toList, ": ".toList ++ rest) := by
  refine splitBefore_append (fun behind hbehind hne => ?_)
    (.inr (List.isPrefixOf_iff_prefix.mpr (List.prefix_append ..)))
  have hmark : ": ".toList = [':', ' '] := rfl
  rw [hmark] at hname ⊢
  rw [← Bool.not_eq_true, List.isPrefixOf_iff_prefix]
  exact not_prefix_append (fun h => hname (h.isInfix.trans hbehind.isInfix)) (by simp) hne

theorem splitBefore_type {p : Property} (h : Declarable false p) :
    splitBefore (fun s => (initial? s).isSome) (p.type.toList ++ (initial p).toList) =
      (p.type.toList, (initial p).toList) := by
  refine splitBefore_append (fun behind hbehind hne => ?_) (.inr ?_)
  · rw [initial?_append hne fun hrequired hname =>
      h.type rfl hrequired hname behind ((List.mem_tails _ _).mpr hbehind) hne]
    rfl
  · rw [initial?_initial]
    rfl

/-- What follows an annotation is set off from it. -/
theorem head?_initial (p : Property) :
    (initial p).toList.head? = none ∨ (initial p).toList.head? = some ' ' := by
  have hspace : ∀ call ∈ [fieldCall, defaultCall], call.head? = some ' ' := by decide
  rcases initial_cases p with ⟨-, hinitial⟩ | hinitial | ⟨call, hcall, hinitial⟩
  all_goals rw [hinitial]
  · exact .inl rfl
  · exact .inr rfl
  · exact .inr (by rw [List.head?_append, hspace call hcall, Option.some_or])

/-- The declaration of a property tells about it what there is to tell. -/
theorem declaration?_property {quoted : Bool} {p : Property} (h : Declarable quoted p) :
    declaration? quoted ((pythonStyle quoted).property p) = some (told p) := by
  have htext : ((pythonStyle quoted).property p).toList = p.name.toList ++ (": ".toList ++
      ((if quoted then escaped p.type else p.type).toList ++ (initial p).toList)) := by
    simp only [pythonStyle, String.toList_append, List.append_assoc]
  have hquote : (initial p).toList.head? ≠ some (quoteFor p.type.toList) := by
    rcases head?_initial p with hhead | hhead
    · simp [hhead]
    · rcases quoteFor_cases p.type.toList with hq | hq <;> rw [hhead, hq] <;> decide
  rw [declaration?, htext, splitBefore_name h.name]
  simp only [dropPrefix?_append, Option.bind_eq_bind, Option.bind_some]
  cases quoted with
  | true =>
    simp only [if_true, PythonModule.textLiteral?_escaped p.type _ hquote, Option.bind_some,
      initial?_initial, String.ofList_toList]
    rfl
  | false =>
    simp only [Bool.false_eq_true, if_false, splitBefore_type h, Option.bind_some,
      initial?_initial, String.ofList_toList]
    rfl

/-- The line that opens a class at a level of nesting. -/
def openingLine (d : ℕ) (name : String) : Line := ⟨4 * d, "class " ++ name ++ "(GraphQLModel):"⟩

theorem className?_openingLine (d : ℕ) (name : String) :
    className? (openingLine d name).text = some name := by
  have hsuffix : ∀ front back : List Char, (front ++ back).dropSuffix? back = some front :=
    fun front back => List.dropSuffix?_eq_some_iff.mpr ⟨back, rfl, beq_self_eq_true back⟩
  rw [className?, openingLine, String.toList_append, String.toList_append, List.append_assoc,
    dropPrefix?_append]
  simp only [Option.bind_eq_bind, Option.bind_some, hsuffix, String.ofList_toList]
  rfl

/-- The names and types of a class are tidy, and the declarations of its properties legible; the
annotations of the class itself may be in quotes, not those of classes nested in it. -/
structure Legible (quoted : Bool) (c : ClassModel) : Prop where
  tidy : ∀ d, NestedIn c d → TidyMembers d
  own : ∀ p ∈ c.properties, Declarable quoted p
  nested : ∀ n ∈ c.classes, ∀ d, NestedIn n d → ∀ p ∈ d.properties, Declarable false p

theorem Legible.of_mem {quoted : Bool} {c n : ClassModel} (h : Legible quoted c)
    (hn : n ∈ c.classes) : Legible false n where
  tidy d hd := h.tidy d (.inside hn hd)
  own := h.nested n hn n (.itself n)
  nested _ hm d hd := h.nested n hn d (.inside hm hd)

theorem isCode_property {quoted : Bool} {p : Property} (hname : Tidy p.name)
    (h : Declarable quoted p) : isCode "# " ((pythonStyle quoted).property p) := by
  have hbegin : ¬ "# ".toList <+: p.name.toList ++ (": ".toList ++
      ((if quoted then escaped p.type else p.type) ++ initial p).toList) := by
    have hmark : "# ".toList = ['#', ' '] := rfl
    have hne : p.name.toList ≠ [] := fun heq => hname.nonempty (String.toList_eq_nil_iff.mp heq)
    have hnot := h.mark
    rw [hmark] at hnot ⊢
    exact not_prefix_append hnot (by simp) hne
  rw [isCode, Bool.not_eq_true', ← Bool.not_eq_true, List.isPrefixOf_iff_prefix]
  simpa only [pythonStyle, String.toList_append, List.append_assoc] using hbegin

theorem Legible.isCode {quoted : Bool} {c : ClassModel} (h : Legible quoted c) :
    ∀ p ∈ c.properties, isCode "# " ((pythonStyle quoted).property p) := fun p hp =>
  isCode_property ((h.tidy c (.itself c)).properties p hp).1 (h.own p hp)

theorem Legible.isCode_nested {c : ClassModel} {quoted : Bool} (h : Legible quoted c) :
    ∀ n ∈ c.classes, ∀ d, NestedIn n d → ∀ p ∈ d.properties,
      Layout.isCode "# " ((pythonStyle false).property p) := fun n hn d hd p hp =>
  isCode_property ((h.tidy d (.inside hn hd)).properties p hp).1 (h.nested n hn d hd p hp)

theorem marks_pythonStyle (quoted : Bool) : (pythonStyle quoted).Marks "# " where
  mark? := rfl
  opening name text htext := by
    rw [List.mem_singleton.mp htext]
    exact isCode_of_head? (m := '#') (c := 'c') rfl (by simp) (by decide)
  filler text htext := by
    rw [List.mem_singleton.mp htext]
    decide
  closing _ htext := nomatch htext

/-- Without comments a class is the line that opens it and what stands under this line. -/
theorem around_bare (quoted : Bool) (d : ℕ) (c? : Option String) (name : String)
    (nested : List (List Line)) (ps : List Property) :
    (pythonStyle quoted).bare.around d c? name nested ps =
      openingLine d name :: (pythonStyle quoted).bare.body (d + 1) nested ps := by
  simp [Style.around, Style.comment, Style.bare, pythonStyle, atLevel, openingLine]

/-- Under the line that opens a class stands its body. -/
theorem blocks_around {quoted : Bool} {d : ℕ} {c? : Option String} {name : String}
    {nested : List (List Line)} (hnested : ∀ ls ∈ nested, ∀ l ∈ ls, 4 * (d + 1) ≤ l.indentation)
    {ps : List Property} :
    blocks ((pythonStyle quoted).bare.around d c? name nested ps) =
      [.mk (openingLine d name) (blocks ((pythonStyle quoted).bare.body (d + 1) nested ps))] := by
  rw [around_bare]
  refine blocks_cons fun l hl => ?_
  have := Style.four_mul_le_of_mem_body hnested hl
  show 4 * d < l.indentation
  omega

/-- In a body without comments the nested classes come first, then a line for each property. -/
theorem body_bare (quoted : Bool) (d : ℕ) (nested : List (List Line)) (ps : List Property) :
    (pythonStyle quoted).bare.body d nested ps =
      nested.flatten ++ atLevel d (ps.map (pythonStyle quoted).property ++
        if nested.isEmpty && ps.isEmpty then ["pass"] else []) := by
  have hproperties : (pythonStyle quoted).bare.properties d ps =
      atLevel d (ps.map (pythonStyle quoted).property) := by
    simp only [Style.properties, Style.declaration, Style.comment, Style.bare, atLevel,
      List.nil_append, List.map_cons, List.map_nil, List.map_map]
    exact List.map_eq_flatMap.symm
  have hfiller : (if nested.isEmpty && ps.isEmpty then atLevel d (pythonStyle quoted).bare.filler
      else []) = atLevel d (if nested.isEmpty && ps.isEmpty then ["pass"] else []) := by
    split <;> rfl
  rw [Style.body, hproperties, hfiller, atLevel, atLevel, atLevel, List.map_append]

theorem four_mul_le_of_mem_classes {d : ℕ} (c : ClassModel) :
    ∀ ls ∈ c.classes.map ((pythonStyle false).bare.lines d), ∀ l ∈ ls, 4 * d ≤ l.indentation := by
  intro ls hls
  obtain ⟨n, -, rfl⟩ := List.mem_map.mp hls
  exact Style.four_mul_le_of_mem_lines _ d n

theorem startsAt_lines (d : ℕ) (c : ClassModel) :
    StartsAt (4 * d) ((pythonStyle false).bare.lines d c) := by
  refine ⟨Style.four_mul_le_of_mem_lines _ d c, fun l hl => ?_⟩
  rw [Style.lines_eq, around_bare, List.head?_cons, Option.some.injEq] at hl
  rw [← hl, openingLine]

theorem members?_append {quoted : Bool} {bs bs' : List Block} {ms ms' : List (Member Declaration)}
    (h : members? quoted bs = some ms) (h' : members? quoted bs' = some ms') :
    members? quoted (bs ++ bs') = some (ms ++ ms') := by
  induction bs generalizing ms with
  | nil =>
    obtain rfl : [] = ms := Option.some.inj h
    exact h'
  | cons b bs ih =>
    simp only [members?, Option.bind_eq_bind, Option.bind_eq_some_iff] at h
    obtain ⟨first, hfirst, rest, hrest, heq⟩ := h
    obtain rfl : first ++ rest = ms := Option.some.inj heq
    simp only [List.cons_append, members?, hfirst, ih hrest, Option.bind_eq_bind, Option.bind_some,
      List.append_assoc]
    rfl

theorem members?_flatten {quoted : Bool} {text : ClassModel → List Block}
    {read : ClassModel → Member Declaration} {cs : List ClassModel}
    (h : ∀ c ∈ cs, members? quoted (text c) = some [read c]) :
    members? quoted (cs.map text).flatten = some (cs.map read) := by
  induction cs with
  | nil => rfl
  | cons c cs ih =>
    obtain ⟨hc, hcs⟩ := List.forall_mem_cons.mp h
    exact members?_append hc (ih hcs)

/-- The line of a property is not taken for what stands in an empty body. -/
theorem member?_property {quoted : Bool} {p : Property} (h : Declarable quoted p) (k : ℕ) :
    member? quoted (.mk ⟨k, (pythonStyle quoted).property p⟩ []) = some [.property (told p)] := by
  have hread := declaration?_property h
  have hpass : (pythonStyle quoted).property p ≠ "pass" := by
    intro heq
    have hnone : ∀ quoted, declaration? quoted "pass" = none := by decide
    rw [heq, hnone] at hread
    cases hread
  simp [member?, hpass, hread]

theorem members?_atLevel {quoted : Bool} {ps : List Property}
    (h : ∀ p ∈ ps, Declarable quoted p) (d : ℕ) (isEmpty : Bool) :
    members? quoted (blocks (atLevel d (ps.map (pythonStyle quoted).property ++
      if isEmpty then ["pass"] else []))) = some (ps.map fun p => .property (told p)) := by
  rw [blocks_atLevel]
  induction ps with
  | nil => cases isEmpty <;> rfl
  | cons p ps ih =>
    obtain ⟨hp, hps⟩ := List.forall_mem_cons.mp h
    simp only [List.map_cons, List.cons_append, members?, member?_property hp, ih hps,
      Option.bind_eq_bind, Option.bind_some]
    rfl

/-- The body of a class declares its members if the classes nested in it are read. -/
theorem members?_body {quoted : Bool} {c : ClassModel} (h : Legible quoted c) (d : ℕ)
    (hnested : ∀ n ∈ c.classes, members? quoted (blocks ((pythonStyle false).bare.lines d n)) =
      some [outline told n]) :
    members? quoted (blocks ((pythonStyle quoted).bare.body d
      (c.classes.map ((pythonStyle false).bare.lines d)) c.properties)) =
        some (members told c) := by
  have hstarts : ∀ ls ∈ c.classes.map ((pythonStyle false).bare.lines d), StartsAt (4 * d) ls := by
    intro ls hls
    obtain ⟨n, -, rfl⟩ := List.mem_map.mp hls
    exact startsAt_lines d n
  rw [body_bare, blocks_append (startsAt_flatten hstarts).right (startsAt_atLevel d _),
    blocks_flatten hstarts, List.map_map]
  exact members?_append (members?_flatten hnested) (members?_atLevel h.own d _)

/-- There is always something in the body of a class. -/
theorem isEmpty_blocks_body (quoted : Bool) (d : ℕ) (c : ClassModel) :
    (blocks ((pythonStyle quoted).bare.body d (c.classes.map ((pythonStyle false).bare.lines d))
      c.properties)).isEmpty = false := by
  have hfiller : (pythonStyle quoted).bare.filler ≠ [] := List.cons_ne_nil _ _
  refine isEmpty_blocks (Style.body_ne_nil hfiller d (fun ls hls => ?_) _)
  obtain ⟨n, -, rfl⟩ := List.mem_map.mp hls
  rw [Style.lines_eq, around_bare]
  exact List.cons_ne_nil _ _

/-- The lines of a class under another one are a block that declares the class. -/
theorem members?_lines {c : ClassModel} (h : Legible false c) (d : ℕ) (quoted : Bool) :
    members? quoted (blocks ((pythonStyle false).bare.lines d c)) = some [outline told c] := by
  induction c using ClassModel.induction generalizing d quoted with
  | step c ih =>
    have hbody := members?_body h (d + 1) fun n hn => ih n hn (h.of_mem hn) (d + 1) false
    rw [Style.lines_eq, blocks_around (four_mul_le_of_mem_classes c), outline_eq]
    simp only [members?, member?, isEmpty_blocks_body, className?_openingLine, hbody]
    rfl

theorem code_rendered {quoted : Bool} {c : ClassModel} (h : Legible quoted c) :
    code "# " (rendered quoted c) = (pythonStyle quoted).bare.around 0 c.comment? c.name
      (c.classes.map ((pythonStyle false).bare.lines 1)) c.properties := by
  have hnested : (c.classes.map ((pythonStyle false).lines 1)).map
      (List.filter fun l => isCode "# " l.text) =
        c.classes.map ((pythonStyle false).bare.lines 1) := by
    rw [List.map_map]
    exact List.map_congr_left fun n hn =>
      (marks_pythonStyle false).filter_lines 1 n (h.isCode_nested n hn)
  rw [code, written_rendered quoted h.tidy,
    (marks_pythonStyle quoted).filter_around 0 c.comment? c.name _ h.isCode, hnested]

/-- Reading the text of a class by indentation gives back what the class declares. -/
theorem read?_rendered {quoted : Bool} {c : ClassModel} (h : Legible quoted c) :
    read? quoted (rendered quoted c) = some (outline told c) := by
  have hbody := members?_body h 1 fun n hn => members?_lines (h.of_mem hn) 1 quoted
  rw [read?, code_rendered h, blocks_around (four_mul_le_of_mem_classes c), outline_eq]
  simp only [className?_openingLine, hbody, isEmpty_blocks_body, Option.bind_eq_bind,
    Option.bind_some, Bool.false_eq_true, if_false]
  rfl

end Python

end OperationClasses.Layout
