import Gleaner.Compression.Huffman

set_option autoImplicit false

/-!
The deflate format: blocks of literal bytes and of references to bytes before, under codes that are
fixed or sent along.
-/
namespace Gleaner.Compression.Deflate

open BitReader

/-- The longest code word. -/
def longest : Nat := 15

/-- The codes of a block: for literals and lengths, and for distances. -/
structure Codes where
  literals : HuffmanCode
  distances : HuffmanCode

def fixedCodes : Codes where
  literals := .ofLengths longest
    (List.replicate 144 8 ++ List.replicate 112 9 ++ List.replicate 24 7 ++ List.replicate 8 8)
  distances := .ofLengths longest (List.replicate 30 5)

/-- The base of each length symbol from 257 on, with the number of bits that are added to it. -/
def lengthTable : List (Nat × Nat) :=
  [(3, 0), (4, 0), (5, 0), (6, 0), (7, 0), (8, 0), (9, 0), (10, 0), (11, 1), (13, 1), (15, 1),
    (17, 1), (19, 2), (23, 2), (27, 2), (31, 2), (35, 3), (43, 3), (51, 3), (59, 3), (67, 4),
    (83, 4), (99, 4), (115, 4), (131, 5), (163, 5), (195, 5), (227, 5), (258, 0)]

/-- The base of each distance symbol, with the number of bits that are added to it. -/
def distanceTable : List (Nat × Nat) :=
  [(1, 0), (2, 0), (3, 0), (4, 0), (5, 1), (7, 1), (9, 2), (13, 2), (17, 3), (25, 3), (33, 4),
    (49, 4), (65, 5), (97, 5), (129, 6), (193, 6), (257, 7), (385, 7), (513, 8), (769, 8),
    (1025, 9), (1537, 9), (2049, 10), (3073, 10), (4097, 11), (6145, 11), (8193, 12), (12289, 12),
    (16385, 13), (24577, 13)]

/-- A number given by its entry in a table and the bits that follow. -/
def extended (table : List (Nat × Nat)) (index : Nat) : BitReader Nat :=
  match table[index]? with
  | some (base, width) => do
      let more ← lowNumber width
      pure (base + more)
  | none => failure

/-- Repeats bytes from `distance` before the end, one by one, so that they may overlap. -/
def copyBack (distance : Nat) : Nat → Array UInt8 → Array UInt8
  | 0, out => out
  | length + 1, out => copyBack distance length (out.push ((out[out.size - distance]?).getD 0))

/-- The end of the block is the symbol 256, smaller ones are literal bytes. -/
def endOfBlock : Nat := 256

/-- Reads symbols up to the end of the block; each takes a bit at least, so `fuel` bits suffice. -/
def symbols (codes : Codes) : Nat → Array UInt8 → BitReader (Array UInt8)
  | 0, _ => failure
  | fuel + 1, out => do
      let symbol ← codes.literals.decode
      if symbol < endOfBlock then symbols codes fuel (out.push (UInt8.ofNat symbol))
      else if symbol = endOfBlock then pure out
      else do
        let length ← extended lengthTable (symbol - 257)
        let distanceSymbol ← codes.distances.decode
        let distance ← extended distanceTable distanceSymbol
        require (distance ≤ out.size)
        symbols codes fuel (copyBack distance length out)

/-- A block whose bytes stand as they are, after their number and its complement. -/
def stored (out : Array UInt8) : BitReader (Array UInt8) := do
  align
  let length ← lowNumber 16
  let complement ← lowNumber 16
  require (length + complement == 65535)
  let bytes ← times (lowNumber 8) length
  pure (out ++ (bytes.map UInt8.ofNat).toArray)

/-- The order in which the lengths of the code for lengths are sent. -/
def lengthOrder : List Nat :=
  [16, 17, 18, 0, 8, 7, 9, 6, 10, 5, 11, 4, 12, 3, 13, 2, 14, 1, 15]

/-- The code for lengths, of which only the first lengths are sent. -/
def lengthCode (sent : List Nat) : HuffmanCode :=
  .ofLengths 7 ((List.range 19).map fun symbol =>
    ((lengthOrder.zip sent).lookup symbol).getD 0)

/-- Reads code lengths until there are `total` of them; `reversed` are those so far. Symbols over 15
stand for several lengths: the last one again, or zeros. -/
def codeLengths (code : HuffmanCode) (total : Nat) : Nat → List Nat → BitReader (List Nat)
  | 0, _ => failure
  | fuel + 1, reversed =>
      if reversed.length = total then pure reversed.reverse
      else if total < reversed.length then failure
      else do
        let symbol ← code.decode
        if symbol < 16 then codeLengths code total fuel (symbol :: reversed)
        else if symbol = 16 then
          match reversed with
          | [] => failure
          | last :: _ => do
              let more ← lowNumber 2
              codeLengths code total fuel (List.replicate (3 + more) last ++ reversed)
        else if symbol = 17 then do
          let more ← lowNumber 3
          codeLengths code total fuel (List.replicate (3 + more) 0 ++ reversed)
        else do
          let more ← lowNumber 7
          codeLengths code total fuel (List.replicate (11 + more) 0 ++ reversed)

/-- A code for data has a word for every stream, or one word at most. -/
def isUsable (code : HuffmanCode) : Bool := code.isComplete || decide (code.size ≤ 1)

/-- Reads the codes that are sent with a block. -/
def sentCodes : BitReader Codes := do
  let literalCount := (← lowNumber 5) + 257
  let distanceCount := (← lowNumber 5) + 1
  let lengthCount := (← lowNumber 4) + 4
  require (literalCount ≤ 286 && distanceCount ≤ 30)
  let sent ← times (lowNumber 3) lengthCount
  let code := lengthCode sent
  require code.isComplete
  let total := literalCount + distanceCount
  let lengths ← codeLengths code total (total + 1) []
  let literals := HuffmanCode.ofLengths longest (lengths.take literalCount)
  let distances := HuffmanCode.ofLengths longest (lengths.drop literalCount)
  require (isUsable literals && isUsable distances)
  pure ⟨literals, distances⟩

/-- Reads symbols under the given codes. -/
def coded (codes : Codes) (out : Array UInt8) : BitReader (Array UInt8) := fun bits =>
  symbols codes bits.length out bits

/-- Reads one block of the given kind. -/
def block (kind : Nat) (out : Array UInt8) : BitReader (Array UInt8) :=
  match kind with
  | 0 => stored out
  | 1 => coded fixedCodes out
  | 2 => do coded (← sentCodes) out
  | _ => failure

/-- Reads blocks up to the one that is marked as the last. -/
def blocks : Nat → Array UInt8 → BitReader (Array UInt8)
  | 0, _ => failure
  | fuel + 1, out => do
      let last ← bit
      let kind ← lowNumber 2
      let out ← block kind out
      if last then pure out else blocks fuel out

/-- The bytes that a deflated stream stands for. -/
def inflate : BitReader (Array UInt8) := fun bits => blocks bits.length #[] bits

end Gleaner.Compression.Deflate
