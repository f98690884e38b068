import OperationClasses.Archive.Unpacking

/-!
# Prefix codes

A code gives every symbol a word of bits, so that no word begins with another one. It is
determined by the lengths of the words: shorter words come first, and words of one length are in
the order of their symbols.
-/
namespace OperationClasses.Archive

/-- A prefix code: how many words there are of each length, and the symbols in the order of
their words. -/
structure PrefixCode where
  counts : List Nat
  symbols : Array Nat
  deriving Repr

namespace PrefixCode

/-- The code whose words have given lengths, by symbol; unused symbols have none. -/
def ofLengths (lengths : List Nat) : PrefixCode :=
  let ofLength := fun n => lengths.zipIdx.filterMap fun (l, s) => if l = n then some s else none
  let groups := (List.range (max 1 (lengths.foldl max 0))).map fun n => ofLength (n + 1)
  ⟨groups.map (·.length), (groups.flatten).toArray⟩

/-- The code, with no words of lengths up to a greater one. -/
def upTo (c : PrefixCode) (length : Nat) : PrefixCode :=
  { c with counts := c.counts ++ List.replicate (length - c.counts.length) 0 }

/-- Reads a word bit by bit; none when no word begins like that. `first` is the first word of the
length at hand, `index` the number of shorter words. -/
def symbolFrom {m : Type → Type} [Monad m] (bit : m Nat) (c : PrefixCode)
    (word first index : Nat) : List Nat → m (Option Nat)
  | [] => return none
  | count :: longer => do
    let word := word + (← bit)
    if word < first + count then return c.symbols[index + (word - first)]?
    else symbolFrom bit c (2 * word) (2 * (first + count)) (index + count) longer

/-- Reads the word of a symbol. -/
def symbol? {m : Type → Type} [Monad m] (bit : m Nat) (c : PrefixCode) : m (Option Nat) :=
  symbolFrom bit c 0 0 0 c.counts

end PrefixCode

end OperationClasses.Archive
