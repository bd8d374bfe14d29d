import Gleaner.Compression.BlockSort
import Gleaner.Compression.Checksum
import Gleaner.Compression.Huffman
import Gleaner.Number.Power

set_option autoImplicit false

/-!
Bzip2 files: blocks that are sorted, moved to the front and sent under several codes. Only the first
stream is read.
-/
namespace Gleaner.Compression.Bzip2

open BitReader

/-- The longest code word. -/
def longest : Nat := 20

/-- Which byte values a block uses: first which sixteens of them, then which in each of those. -/
def usedBytes : BitReader (List UInt8) := do
  let sixteens ← times bit 16
  let used ← sixteens.zipIdx.mapM fun entry =>
    if entry.1 then do
      let bits ← times bit 16
      pure ((bits.zipIdx.filter (·.1)).map fun b => UInt8.ofNat (16 * entry.2 + b.2))
    else pure []
  pure used.flatten

/-- Counts set bits up to the first clear one, of which there may be `limit - 1` before it. -/
def unary : Nat → BitReader Nat
  | 0 => failure
  | limit + 1 => do
      if ← bit then (· + 1) <$> unary limit else pure 0

/-- The number of symbols that are read under one code before the next is taken. -/
def groupSize : Nat := 50

/-- The most selectors that are of use; what is sent beyond them is ignored. -/
def mostSelectors : Nat := 18002

/-- Undoes the moving to the front of selectors. -/
def selectorsOf : List Nat → List Nat → Option (List Nat)
  | _, [] => some []
  | order, position :: positions => do
      let (selector, order) ← BlockSort.moveToFront position order
      let others ← selectorsOf order positions
      some (selector :: others)

/-- One code length, sent as steps up and down from the length before. -/
def codeLength : Nat → Nat → BitReader Nat
  | 0, _ => failure
  | fuel + 1, length => do
      require (1 ≤ length && length ≤ longest)
      if ← bit then
        if ← bit then codeLength fuel (length - 1) else codeLength fuel (length + 1)
      else pure length

/-- The code lengths of the given number of symbols. -/
def codeLengths (fuel length : Nat) : Nat → BitReader (List Nat)
  | 0 => pure []
  | n + 1 => do
      let first ← codeLength fuel length
      let others ← codeLengths fuel first n
      pure (first :: others)

/-- One of the codes of a block. -/
def code (fuel symbols : Nat) : BitReader HuffmanCode := do
  let length ← highNumber 5
  let lengths ← codeLengths fuel length symbols
  pure (HuffmanCode.ofLengths longest lengths)

/-- Reads symbols up to the end of the block; `left` more are read under the present code. -/
def symbols (codes : Array HuffmanCode) (endOfBlock : Nat) :
    Nat → HuffmanCode → Nat → List Nat → BitReader (List Nat)
  | 0, _, _, _ => failure
  | fuel + 1, present, left + 1, selectors => do
      let symbol ← present.decode
      if symbol = endOfBlock then pure []
      else (symbol :: ·) <$> symbols codes endOfBlock fuel present left selectors
  | fuel + 1, _, 0, selector :: selectors => do
      match codes[selector]? with
      | none => failure
      | some next => do
          let symbol ← next.decode
          if symbol = endOfBlock then pure []
          else
            (symbol :: ·) <$> symbols codes endOfBlock fuel next (groupSize - 1) selectors
  | _, _, 0, [] => failure

/-- A run of the first byte may not get longer than this many of its units. -/
def runLimit : Nat := twoPow 21

/-- What symbols stand for. The symbols 0 and 1 are the digits of the length of a run of the first
byte, the lowest first, and count once and twice their unit; other symbols move a byte to the front.
A block holds no more than `limit` bytes. -/
def lastBytes (limit : Nat) (order : List UInt8) (unit run : Nat) (out : Array UInt8) :
    List Nat → Option (Array UInt8)
  | [] => close order run out
  | symbol :: rest =>
      if symbol ≤ 1 then
        if runLimit ≤ unit then none
        else lastBytes limit order (2 * unit) (run + (symbol + 1) * unit) out rest
      else do
        let out ← close order run out
        if limit ≤ out.size then none
        let (byte, order) ← BlockSort.moveToFront (symbol - 1) order
        lastBytes limit order 1 0 (out.push byte) rest
where
  /-- Adds a run of the byte in front. -/
  close (order : List UInt8) (run : Nat) (out : Array UInt8) : Option (Array UInt8) :=
    if run = 0 then some out
    else if limit < out.size + run then none
    else order.head?.map fun byte => out ++ Array.replicate run byte

/-- Reads a block after its mark; gives its checksum and its bytes. -/
def block (level : Nat) : BitReader (Nat × List UInt8) := do
  let checksum ← highNumber 32
  let scrambled ← bit
  let row ← highNumber 24
  let used ← usedBytes
  require (!used.isEmpty)
  let codeCount ← highNumber 3
  require (2 ≤ codeCount && codeCount ≤ 6)
  let selectorCount ← highNumber 15
  require (1 ≤ selectorCount)
  let positions ← times (unary codeCount) selectorCount
  let selectors ← selectorsOf (List.range codeCount) (positions.take mostSelectors)
  let fuel := (← get).length
  let codes ← times (code fuel (used.length + 2)) codeCount
  let sent ← symbols codes.toArray (used.length + 1) (fuel + 1) ⟨[], #[]⟩ 0 selectors
  let last ← lastBytes (100000 * level) used 1 0 #[] sent
  require (row < last.size)
  let sorted := BlockSort.unsort last row
  let plain := if scrambled then BlockSort.unscramble 0 BlockSort.flipDistances sorted else sorted
  let bytes ← BlockSort.expandRuns 0 0 plain
  require (highChecksum bytes == checksum)
  pure (checksum, bytes)

/-- The mark that a block starts with. -/
def blockMark : Nat := 0x314159265359

/-- The mark after the last block. -/
def endMark : Nat := 0x177245385090

/-- Turns the checksum of the blocks so far by one bit, and adds that of the next block. -/
def combine (combined checksum : Nat) : Nat :=
  (2 * combined % twoPow 32 + combined / twoPow 31) ^^^ checksum

/-- Reads blocks up to the end mark and the combined checksum of all. -/
def blocks (level : Nat) : Nat → Nat → BitReader (List UInt8)
  | 0, _ => failure
  | fuel + 1, combined => do
      let mark ← highNumber 48
      if mark = blockMark then do
        let (checksum, bytes) ← block level
        let others ← blocks level fuel (combine combined checksum)
        pure (bytes ++ others)
      else if mark = endMark then do
        let checksum ← highNumber 32
        require (checksum == combined)
        pure []
      else failure

/-- The content of the first stream. A file starts with `BZh` and the size of its blocks, as a digit
that counts hundreds of thousands of bytes. -/
def decompress? (bytes : List UInt8) : Option (List UInt8) :=
  match bytes with
  | 0x42 :: 0x5A :: 0x68 :: level :: rest =>
      let level := level.toNat
      if 0x31 ≤ level ∧ level ≤ 0x39 then
        ((blocks (level - 0x30) (rest.length + 1) 0).run (rest.flatMap highFirst)).map (·.1)
      else none
  | _ => none

end Gleaner.Compression.Bzip2
