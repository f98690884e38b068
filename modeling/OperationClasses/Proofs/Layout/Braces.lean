import Mathlib.Data.List.Infix
import Mathlib.Data.List.TakeWhile
import OperationClasses.Proofs.Layout.ClassLines

/-!
# Reading by braces

The text of a class of C# is read with no regard to its lines: a group of braces with what stands in
front of it is a property if the braces hold its accessors, and a class if they hold members. Names
and types without braces leave the braces of a text balanced, and the text tells which classes and
properties there are, in their order.
-/
namespace OperationClasses.Layout

open Text Response

/-- A text by its outermost braces: what stands in front of the first group, what is in it, and what
follows. -/
inductive Braced where
  | ends (text : List Char)
  | group (head : List Char) (inner next : Braced)

/-- The same with a character more in front. -/
def Braced.cons (c : Char) : Braced → Braced
  | ends text => ends (c :: text)
  | group head inner next => group (c :: head) inner next

/-- A text, read from its end, as it stands in each of the groups that have not been opened yet,
from the innermost outwards. -/
def frames? : List Char → Option (List Braced)
  | [] => some [.ends []]
  | c :: cs => (frames? cs).bind fun
    | [] => none
    | b :: bs =>
      if c = '\x7d' then some (.ends [] :: b :: bs)
      else if c = '\x7b' then
        match bs with
        | [] => none
        | next :: bs => some (.group [] b next :: bs)
      else some (b.cons c :: bs)

/-- A text by its braces, if each of them has its counterpart. -/
def braced? (s : List Char) : Option Braced :=
  match frames? s with
  | some [b] => some b
  | _ => none

/-- No brace occurs. -/
def Braceless (s : List Char) : Prop := '\x7b' ∉ s ∧ '\x7d' ∉ s

instance (s : List Char) : Decidable (Braceless s) := inferInstanceAs (Decidable (_ ∧ _))

/-- Every brace that is closed was opened before, and all are closed. -/
structure Balanced (s : List Char) : Prop where
  opened : ∀ front, front <+: s → front.count '\x7d' ≤ front.count '\x7b'
  closed : s.count '\x7b' = s.count '\x7d'

theorem braceless_append {s s' : List Char} :
    Braceless (s ++ s') ↔ Braceless s ∧ Braceless s' := by
  simp only [Braceless, List.mem_append, not_or]
  tauto

theorem frames?_open {s : List Char} {b next : Braced} {bs : List Braced}
    (h : frames? s = some (b :: next :: bs)) :
    frames? ('\x7b' :: s) = some (.group [] b next :: bs) := by
  rw [frames?, h]
  rfl

theorem frames?_close {s : List Char} {b : Braced} {bs : List Braced}
    (h : frames? s = some (b :: bs)) : frames? ('\x7d' :: s) = some (.ends [] :: b :: bs) := by
  rw [frames?, h]
  rfl

theorem frames?_cons {c : Char} (hc : Braceless [c]) {s : List Char} {b : Braced}
    {bs : List Braced} (h : frames? s = some (b :: bs)) :
    frames? (c :: s) = some (b.cons c :: bs) := by
  have hclose : c ≠ '\x7d' := fun heq => hc.2 (heq ▸ List.mem_singleton_self c)
  have hopen : c ≠ '\x7b' := fun heq => hc.1 (heq ▸ List.mem_singleton_self c)
  rw [frames?, h]
  simp [hclose, hopen]

theorem frames?_append_braceless {front s : List Char} (hfront : Braceless front) {b : Braced}
    {bs : List Braced} (h : frames? s = some (b :: bs)) :
    frames? (front ++ s) = some (front.foldr Braced.cons b :: bs) := by
  induction front with
  | nil => exact h
  | cons c front ih =>
    have hsplit : Braceless ([c] ++ front) := hfront
    obtain ⟨hc, hrest⟩ := braceless_append.mp hsplit
    exact frames?_cons hc (ih hrest)

theorem foldr_cons_ends (front text : List Char) :
    front.foldr Braced.cons (.ends text) = .ends (front ++ text) := by
  induction front with
  | nil => rfl
  | cons c front ih => rw [List.foldr_cons, ih]; rfl

theorem foldr_cons_group (front head : List Char) (inner next : Braced) :
    front.foldr Braced.cons (.group head inner next) = .group (front ++ head) inner next := by
  induction front with
  | nil => rfl
  | cons c front ih => rw [List.foldr_cons, ih]; rfl

/-- There is a text for each brace that is closed and not opened, and one more. -/
theorem count_of_frames? {s : List Char} {bs : List Braced} (h : frames? s = some bs) :
    bs ≠ [] ∧ s.count '\x7d' + 1 = s.count '\x7b' + bs.length := by
  induction s generalizing bs with
  | nil =>
    obtain rfl : [.ends []] = bs := Option.some.inj h
    exact ⟨List.cons_ne_nil _ _, rfl⟩
  | cons c s ih =>
    rw [frames?, Option.bind_eq_some_iff] at h
    obtain ⟨frames, hframes, h⟩ := h
    obtain ⟨hne, hcount⟩ := ih hframes
    cases frames with
    | nil => exact absurd rfl hne
    | cons b rest =>
      dsimp only at h
      split at h
      · next hc =>
        obtain rfl := Option.some.inj h
        simp only [hc, List.count_cons_self, List.length_cons] at hcount ⊢
        rw [List.count_cons_of_ne (by decide)]
        exact ⟨List.cons_ne_nil _ _, by omega⟩
      · next hclose =>
        split at h
        · next hc =>
          cases rest with
          | nil => cases h
          | cons next rest =>
            obtain rfl := Option.some.inj h
            simp only [hc, List.count_cons_self, List.length_cons] at hcount ⊢
            rw [List.count_cons_of_ne (by decide)]
            exact ⟨List.cons_ne_nil _ _, by omega⟩
        · next hopen =>
          obtain rfl := Option.some.inj h
          rw [List.count_cons_of_ne hclose, List.count_cons_of_ne hopen]
          exact ⟨List.cons_ne_nil _ _, hcount⟩

theorem exists_frames?_of_append {front back : List Char} {bs : List Braced}
    (h : frames? (front ++ back) = some bs) : ∃ bs', frames? back = some bs' := by
  induction front generalizing bs with
  | nil => exact ⟨bs, h⟩
  | cons c front ih =>
    rw [List.cons_append, frames?, Option.bind_eq_some_iff] at h
    obtain ⟨frames, hframes, -⟩ := h
    exact ih hframes

/-- The braces of a text that can be read are balanced. -/
theorem balanced_of_braced? {s : List Char} {b : Braced} (h : braced? s = some b) :
    Balanced s := by
  have hframes : ∃ b', frames? s = some [b'] := by
    unfold braced? at h
    split at h
    · exact ⟨_, by assumption⟩
    · cases h
  obtain ⟨b', hframes⟩ := hframes
  obtain ⟨-, hcount⟩ := count_of_frames? hframes
  have hclosed : s.count '\x7b' = s.count '\x7d' := by
    simp only [List.length_singleton] at hcount
    omega
  refine ⟨fun front hfront => ?_, hclosed⟩
  obtain ⟨back, rfl⟩ := hfront
  obtain ⟨bs, hback⟩ := exists_frames?_of_append hframes
  obtain ⟨hne, hbehind⟩ := count_of_frames? hback
  have hpos := List.length_pos_of_ne_nil hne
  simp only [List.count_append] at hclosed
  omega

namespace CSharp

/-- What a class of C# tells about a property. -/
structure Typed where
  name : String
  type : String
  deriving Repr, DecidableEq

/-- What there is to tell about a property. -/
def told (p : Property) : Typed := ⟨p.name, p.type⟩

/-- The name of the class that is opened behind certain words. -/
def className? (head : List Char) : Option String :=
  ((trim head).dropPrefix? "public class ".toList).map String.ofList

/-- The type and, as the last word, the name of a property. -/
def typed (words : List Char) : Typed :=
  ⟨String.ofList (words.reverse.takeWhile (· ≠ ' ')).reverse,
    String.ofList ((words.reverse.dropWhile (· ≠ ' ')).drop 1).reverse⟩

/-- What a property of C# looks like: the name ends the words in front of its accessors. -/
def seen (p : Property) : Typed := typed (p.type.toList ++ ' ' :: p.name.toList)

/-- The property that is named in front of its accessors. -/
def property? (head : List Char) : Option Typed :=
  ((trim head).dropPrefix? "public ".toList).map typed

/-- What stands in the braces of a property. -/
def isAccessors : Braced → Bool
  | .ends text => trim text = "get; set;".toList
  | .group .. => false

/-- What is declared by a text whose braces are given. -/
def members? : Braced → Option (List (Member Typed))
  | .ends text => if text.all isBlank then some [] else none
  | .group head inner next => do
    let first ←
      if isAccessors inner then (property? head).map Member.property
      else (className? head).bind fun name => (members? inner).map (Member.nested name)
    let rest ← members? next
    return first :: rest

/-- The characters of some lines, without their indentation. -/
def chars (ls : List Line) : List Char := ls.flatMap fun l => l.text.toList ++ ['\n']

/-- The class that a text declares. -/
def read? (s : String) : Option (Member Typed) :=
  match (braced? (chars (code "// " s))).bind members? with
  | some [m] => some m
  | _ => none

theorem trim_cons_blank {c : Char} (hc : isBlank c = true) (s : List Char) :
    trim (c :: s) = trim s := by
  rw [trim, List.dropWhile_cons_of_pos hc, ← trim]

/-- White space behind a text is trimmed away, and nothing else where none is at its ends. -/
theorem trim_append_blank {s : List Char} {c : Char} (hc : isBlank c = true)
    (hhead : ∀ d, s.head? = some d → isBlank d = false)
    (hlast : ∀ d, s.getLast? = some d → isBlank d = false) (hne : s ≠ []) :
    trim (s ++ [c]) = s := by
  obtain ⟨d, rest, rfl⟩ := List.exists_cons_of_ne_nil hne
  have hd : ¬ isBlank d = true := by simp [hhead d rfl]
  rw [trim, List.cons_append, List.dropWhile_cons_of_neg hd, ← List.cons_append,
    List.reverse_append, List.reverse_singleton, List.singleton_append,
    List.dropWhile_cons_of_pos hc]
  cases hreverse : (d :: rest).reverse with
  | nil => simp at hreverse
  | cons e es =>
    have he : ¬ isBlank e = true := by
      have hlast' : (d :: rest).getLast? = some e := by
        rw [List.getLast?_eq_head?_reverse, hreverse, List.head?_cons]
      simp [hlast e hlast']
    rw [List.dropWhile_cons_of_neg he, ← hreverse, List.reverse_reverse]

theorem members?_cons_blank {c : Char} (hc : isBlank c = true) (b : Braced) :
    members? (b.cons c) = members? b := by
  cases b with
  | ends text => simp [Braced.cons, members?, hc]
  | group head inner next =>
    simp only [Braced.cons, members?, property?, className?, trim_cons_blank hc]

/-- Wherever a text stands, it declares certain members in front of what follows. -/
def Spells (s : List Char) (ms : List (Member Typed)) : Prop :=
  ∀ rest b bs after, frames? rest = some (b :: bs) → members? b = some after →
    ∃ b', frames? (s ++ rest) = some (b' :: bs) ∧ members? b' = some (ms ++ after)

theorem spells_nil : Spells [] [] := fun _ b _ _ hrest hafter => ⟨b, hrest, hafter⟩

theorem Spells.append {s s' : List Char} {ms ms' : List (Member Typed)} (h : Spells s ms)
    (h' : Spells s' ms') : Spells (s ++ s') (ms ++ ms') := by
  intro rest b bs after hrest hafter
  obtain ⟨b', hframes, hmembers⟩ := h' rest b bs after hrest hafter
  rw [List.append_assoc, List.append_assoc]
  exact h _ b' bs _ hframes hmembers

theorem spells_newline : Spells ['\n'] [] := by
  intro rest b bs after hrest hafter
  refine ⟨b.cons '\n', frames?_cons (by decide) hrest, ?_⟩
  rwa [members?_cons_blank (by decide)]

/-- A text that spells members is read as these. -/
theorem Spells.exists_braced? {s : List Char} {ms : List (Member Typed)} (h : Spells s ms) :
    ∃ b, braced? s = some b ∧ members? b = some ms := by
  obtain ⟨b, hframes, hmembers⟩ := h [] (.ends []) [] [] rfl rfl
  rw [List.append_nil] at hframes hmembers
  exact ⟨b, by rw [braced?, hframes], hmembers⟩

theorem spells_flatMap {α : Type} {text : α → List Char} {declared : α → Member Typed}
    {as : List α} (h : ∀ a ∈ as, Spells (text a) [declared a]) :
    Spells (as.flatMap text) (as.map declared) := by
  induction as with
  | nil => exact spells_nil
  | cons a as ih =>
    obtain ⟨ha, has⟩ := List.forall_mem_cons.mp h
    exact ha.append (ih has)

/-- Members in braces are no accessors. -/
theorem isAccessors_of_members? {b : Braced} {ms : List (Member Typed)}
    (h : members? b = some ms) : isAccessors b = false := by
  cases b with
  | group head inner next => rfl
  | ends text =>
    rw [members?] at h
    split at h
    · next hall =>
      have hnone : text.dropWhile isBlank = [] :=
        List.dropWhile_eq_nil_iff.mpr (List.all_eq_true.mp hall)
      have htrim : trim text = [] := by rw [trim, hnone]; rfl
      rw [isAccessors, htrim]
      decide
    · cases h

theorem members?_property {head : List Char} {inner next : Braced} {p : Typed}
    {after : List (Member Typed)} (hinner : isAccessors inner = true) (hp : property? head = some p)
    (hafter : members? next = some after) :
    members? (.group head inner next) = some (.property p :: after) := by
  simp [members?, hinner, hp, hafter]

theorem members?_class {head : List Char} {inner next : Braced} {name : String}
    {ms after : List (Member Typed)} (hinner : members? inner = some ms)
    (hname : className? head = some name) (hafter : members? next = some after) :
    members? (.group head inner next) = some (.nested name ms :: after) := by
  simp [members?, isAccessors_of_members? hinner, hname, hinner, hafter]

/-- A class is spelled by the words that open it and its members in braces. -/
theorem spells_class {head inner : List Char} {name : String} {ms : List (Member Typed)}
    (hhead : Braceless head) (hname : className? head = some name) (hinner : Spells inner ms) :
    Spells (head ++ '\x7b' :: (inner ++ ['\x7d'])) [.nested name ms] := by
  intro rest b bs after hrest hafter
  obtain ⟨b', hframes, hmembers⟩ := hinner _ _ _ [] (frames?_close hrest) rfl
  rw [List.append_nil] at hmembers
  refine ⟨.group head b' b, ?_, ?_⟩
  · have hgroup := frames?_append_braceless hhead (frames?_open hframes)
    rw [foldr_cons_group, List.append_nil] at hgroup
    simpa using hgroup
  · exact members?_class hmembers hname hafter

/-- A property is spelled by the words that name it and its accessors in braces. -/
theorem spells_property {head : List Char} {p : Typed} (hhead : Braceless head)
    (hp : property? head = some p) :
    Spells (head ++ '\x7b' :: (" get; set; ".toList ++ ['\x7d'])) [.property p] := by
  intro rest b bs after hrest hafter
  have haccessors : Braceless " get; set; ".toList := by decide
  have hframes := frames?_append_braceless haccessors (frames?_close hrest)
  rw [foldr_cons_ends, List.append_nil] at hframes
  refine ⟨.group head (.ends " get; set; ".toList) b, ?_, ?_⟩
  · have hgroup := frames?_append_braceless hhead (frames?_open hframes)
    rw [foldr_cons_group, List.append_nil] at hgroup
    simpa using hgroup
  · have his : isAccessors (.ends " get; set; ".toList) = true := by decide
    exact members?_property his hp hafter

/-- The names and types that a class writes are tidy and without braces. -/
structure BracelessMembers (c : ClassModel) : Prop extends TidyMembers c where
  braceless : Braceless c.name.toList ∧
    ∀ p ∈ c.properties, Braceless p.name.toList ∧ Braceless p.type.toList

instance (c : ClassModel) : Decidable (BracelessMembers c) :=
  decidable_of_iff (TidyMembers c ∧ Braceless c.name.toList ∧
      ∀ p ∈ c.properties, Braceless p.name.toList ∧ Braceless p.type.toList)
    ⟨fun h => ⟨h.1, h.2⟩, fun h => ⟨h.toTidyMembers, h.braceless⟩⟩

/-- The words that open a class, with the white space behind them, tell its name. -/
theorem className?_opening {name : String} (h : Tidy name) :
    className? ("public class ".toList ++ name.toList ++ ['\n']) = some name := by
  have hne : name.toList ≠ [] := fun heq => h.nonempty (String.toList_eq_nil_iff.mp heq)
  have htrim : trim ("public class ".toList ++ name.toList ++ ['\n']) =
      "public class ".toList ++ name.toList := by
    refine trim_append_blank (by decide) (fun d hd => ?_) (fun d hd => ?_) (by simp)
    · obtain rfl : 'p' = d := by simpa using hd
      decide
    · rw [List.getLast?_append_of_ne_nil _ hne] at hd
      exact h.ends d (.inr hd)
  rw [className?, htrim, dropPrefix?_append, Option.map_some, String.ofList_toList]

/-- The name of a property is told from its type if it is one word. -/
theorem seen_eq_told {p : Property} (h : ' ' ∉ p.name.toList) : seen p = told p := by
  have hletters : ∀ c ∈ p.name.toList.reverse, decide (c ≠ ' ') = true := fun c hc =>
    decide_eq_true fun heq => h (heq ▸ List.mem_reverse.mp hc)
  have hreverse : (p.type.toList ++ ' ' :: p.name.toList).reverse =
      p.name.toList.reverse ++ ' ' :: p.type.toList.reverse := by simp
  rw [seen, typed, hreverse, List.takeWhile_append_of_pos hletters,
    List.dropWhile_append_of_pos hletters]
  simp [told]

/-- The words in front of the accessors of a property are read as they look. -/
theorem property?_seen {p : Property} (hname : Tidy p.name) :
    property? ("public ".toList ++ (p.type.toList ++ ' ' :: p.name.toList) ++ [' ']) =
      some (seen p) := by
  have hne : p.name.toList ≠ [] := fun heq => hname.nonempty (String.toList_eq_nil_iff.mp heq)
  have htrim : trim ("public ".toList ++ (p.type.toList ++ ' ' :: p.name.toList) ++ [' ']) =
      "public ".toList ++ (p.type.toList ++ ' ' :: p.name.toList) := by
    refine trim_append_blank (by decide) (fun d hd => ?_) (fun d hd => ?_) (by simp)
    · obtain rfl : 'p' = d := by simpa using hd
      decide
    · have hlast : ("public ".toList ++ (p.type.toList ++ ' ' :: p.name.toList)).getLast? =
          p.name.toList.getLast? := by
        rw [← List.append_assoc, List.append_cons, List.getLast?_append_of_ne_nil _ hne]
      exact hname.ends d (.inr (hlast ▸ hd))
  rw [property?, htrim, dropPrefix?_append, Option.map_some, seen]

/-- The line of a property, and the end of it, spells the property. -/
theorem spells_line {p : Property} (hname : Tidy p.name)
    (h : Braceless p.name.toList ∧ Braceless p.type.toList) (k : ℕ) :
    Spells (chars [⟨k, csharpStyle.property p⟩]) [.property (seen p)] := by
  have hhead : Braceless
      ("public ".toList ++ (p.type.toList ++ ' ' :: p.name.toList) ++ [' ']) := by
    have hwords : Braceless (p.type.toList ++ ' ' :: p.name.toList) := by
      rw [List.append_cons]
      exact braceless_append.mpr ⟨braceless_append.mpr ⟨h.2, by decide⟩, h.1⟩
    exact braceless_append.mpr ⟨braceless_append.mpr ⟨by decide, hwords⟩, by decide⟩
  have hline : chars [⟨k, csharpStyle.property p⟩] =
      ("public ".toList ++ (p.type.toList ++ ' ' :: p.name.toList) ++ [' ']) ++
        '\x7b' :: (" get; set; ".toList ++ ['\x7d']) ++ ['\n'] := by
    have hbehind : " \x7b get; set; \x7d".toList =
        [' '] ++ '\x7b' :: (" get; set; ".toList ++ ['\x7d']) := rfl
    have hspace : " ".toList = [' '] := rfl
    simp [chars, csharpStyle, hbehind, hspace]
  rw [hline]
  exact (spells_property hhead (property?_seen hname)).append spells_newline

theorem chars_around (d : ℕ) (c? : Option String) (name : String) (nested : List (List Line))
    (ps : List Property) : chars (csharpStyle.bare.around d c? name nested ps) =
      ("public class ".toList ++ name.toList ++ ['\n']) ++ '\x7b' :: (['\n'] ++
        (chars nested.flatten ++
          ps.flatMap fun p => chars [⟨4 * (d + 1), csharpStyle.property p⟩]) ++
            ['\x7d']) ++ ['\n'] := by
  have hlines : csharpStyle.bare.around d c? name nested ps =
      [⟨4 * d, "public class " ++ name⟩, ⟨4 * d, "\x7b"⟩] ++ nested.flatten ++
        (ps.flatMap fun p => [⟨4 * (d + 1), csharpStyle.property p⟩]) ++ [⟨4 * d, "\x7d"⟩] := by
    simp [Style.around, Style.body, Style.properties, Style.declaration, Style.comment, Style.bare,
      csharpStyle, atLevel]
  have hbraces : "\x7b".toList = ['\x7b'] ∧ "\x7d".toList = ['\x7d'] := ⟨rfl, rfl⟩
  rw [hlines]
  simp only [chars, List.flatMap_append, List.flatMap_assoc, List.flatMap_cons, List.flatMap_nil,
    String.toList_append, hbraces]
  simp

/-- The lines of a class without its comments spell the class. -/
theorem spells_lines {c : ClassModel} (h : ∀ e, NestedIn c e → BracelessMembers e) (d : ℕ) :
    Spells (chars (csharpStyle.bare.lines d c)) [outline seen c] := by
  induction c using ClassModel.induction generalizing d with
  | step c ih =>
    have hown := h c (.itself c)
    have hnested : Spells (chars (c.classes.map (csharpStyle.bare.lines (d + 1))).flatten)
        (c.classes.map (outline seen)) := by
      rw [chars, ← List.flatMap_def, List.flatMap_assoc]
      exact spells_flatMap fun n hn => ih n hn (fun e he => h e (.inside hn he)) (d + 1)
    have hproperties : Spells
        (c.properties.flatMap fun p => chars [⟨4 * (d + 1), csharpStyle.property p⟩])
        (c.properties.map fun p => .property (seen p)) :=
      spells_flatMap fun p hp => spells_line (hown.properties p hp).1 (hown.braceless.2 p hp) _
    have hhead : Braceless ("public class ".toList ++ c.name.toList ++ ['\n']) :=
      braceless_append.mpr ⟨braceless_append.mpr ⟨by decide, hown.braceless.1⟩, by decide⟩
    have hclass := spells_class hhead (className?_opening hown.name)
      (spells_newline.append (hnested.append hproperties))
    rw [Style.lines_eq, chars_around, outline_eq]
    exact hclass.append spells_newline

theorem marks_csharpStyle : csharpStyle.Marks "// " where
  mark? := rfl
  opening name text htext := by
    rcases List.mem_pair.mp htext with rfl | rfl
    · exact isCode_of_head? (m := '/') (c := 'p') rfl (by simp) (by decide)
    · decide
  filler _ htext := nomatch htext
  closing text htext := by
    rw [List.mem_singleton.mp htext]
    decide

theorem isCode_property (p : Property) : isCode "// " (csharpStyle.property p) :=
  isCode_of_head? (m := '/') (c := 'p') rfl (by simp [csharpStyle]) (by decide)

theorem code_classText {c : ClassModel} (h : ∀ d, NestedIn c d → TidyMembers d) :
    code "// " (classText c) = csharpStyle.bare.lines 0 c := by
  rw [code, (writes_classText c h).written]
  exact marks_csharpStyle.filter_lines 0 c fun _ _ p _ => isCode_property p

/-- The text of a class has its braces balanced, but for its comments, and is read as it looks. -/
theorem exists_braced?_classText {c : ClassModel} (h : ∀ d, NestedIn c d → BracelessMembers d) :
    ∃ b, braced? (chars (code "// " (classText c))) = some b ∧
      members? b = some [outline seen c] := by
  rw [code_classText fun d hd => (h d hd).toTidyMembers]
  exact (spells_lines h 0).exists_braced?

/-- The names and types of a class are tidy and without braces, and the names of properties without
spaces. -/
structure Legible (c : ClassModel) : Prop where
  members : ∀ d, NestedIn c d → BracelessMembers d
  words : ∀ d, NestedIn c d → ∀ p ∈ d.properties, ' ' ∉ p.name.toList

/-- Reading the text of a class by braces gives back what the class declares. -/
theorem read?_classText {c : ClassModel} (h : Legible c) :
    read? (classText c) = some (outline told c) := by
  obtain ⟨b, hb, hmembers⟩ := exists_braced?_classText h.members
  have houtline : outline seen c = outline told c :=
    outline_congr fun d hd p hp => seen_eq_told (h.words d hd p hp)
  rw [read?, hb, Option.bind_some, hmembers, houtline]

end CSharp

end OperationClasses.Layout
