import Gleaner.Compression.Bits
import Gleaner.Number.Power

set_option autoImplicit false

/-!
Canonical codes. The lengths of the code words of all symbols determine the code: words of one length
are consecutive numbers in the order of their symbols, and shorter words come before longer ones.
-/
namespace Gleaner.Compression

structure HuffmanCode where
  /-- How many words there are of each length, from length one on. -/
  counts : List Nat
  /-- The symbols in the order of their words. -/
  symbols : Array Nat

namespace HuffmanCode

/-- The symbols whose word has the given length. -/
def symbolsOf (lengths : List Nat) (length : Nat) : List Nat :=
  (lengths.zipIdx.filter fun entry => entry.1 == length).map (·.2)

/-- The code with the given length for each symbol, of which none is over `longest`; symbols of
length zero have no word. -/
def ofLengths (longest : Nat) (lengths : List Nat) : HuffmanCode :=
  let groups := (List.range longest).map fun i => symbolsOf lengths (i + 1)
  ⟨groups.map (·.length), groups.flatten.toArray⟩

def size (code : HuffmanCode) : Nat := code.symbols.size

/-- The share of all streams that start with a word, in units of `1 / 2 ^ counts.length`. -/
def weight : List Nat → Nat
  | [] => 0
  | count :: counts => count * twoPow counts.length + weight counts

/-- Every stream starts with exactly one word. -/
def isComplete (code : HuffmanCode) : Bool :=
  weight code.counts == twoPow code.counts.length

/-- Reads on for a word. `word` is what has been read, `first` the first word of that length, which
is the one at `index`. -/
def decodeFrom (symbols : Array Nat) (word first index : Nat) : List Nat → BitReader Nat
  | [] => failure
  | count :: counts => do
      let b ← BitReader.bit
      let word := 2 * word + b.toNat
      let first := 2 * first
      if word < first + count then
        match symbols[index + (word - first)]? with
        | some symbol => pure symbol
        | none => failure
      else decodeFrom symbols word (first + count) (index + count) counts

/-- Reads one word, and gives its symbol. -/
def decode (code : HuffmanCode) : BitReader Nat :=
  decodeFrom code.symbols 0 0 0 code.counts

end HuffmanCode

end Gleaner.Compression
