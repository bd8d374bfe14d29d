import Gleaner.Compression.Checksum
import Gleaner.Compression.Deflate
import Gleaner.Number.Power

set_option autoImplicit false

/-!
Gzip files. Only the first member is read: what follows its trailer, another member or anything else,
is left alone.
-/
namespace Gleaner.Compression.Gzip

/-- A number of the given width in bytes, the lowest first. -/
def number : List UInt8 → Nat
  | [] => 0
  | byte :: bytes => byte.toNat + 256 * number bytes

/-- The given number of bytes, and what comes after them. -/
def split? (count : Nat) (bytes : List UInt8) : Option (List UInt8 × List UInt8) :=
  if count ≤ bytes.length then some (bytes.splitAt count) else none

/-- The longest text in a header. -/
def longestText : Nat := 65535

/-- What follows a text that a zero byte ends. -/
def afterText? (bytes : List UInt8) : Option (List UInt8) :=
  match bytes.dropWhile (· != 0) with
  | [] => none
  | _ :: rest => if bytes.length - rest.length - 1 ≤ longestText then some rest else none

/-- What follows the extra field, which starts with its length. -/
def afterExtra? (bytes : List UInt8) : Option (List UInt8) := do
  let (length, rest) ← split? 2 bytes
  let (_, rest) ← split? (number length) rest
  some rest

/-- What follows the checksum of the header, which are the two low bytes of that of all before. -/
def afterChecksum? (header bytes : List UInt8) : Option (List UInt8) := do
  let (sum, rest) ← split? 2 bytes
  let before := header.take (header.length - bytes.length)
  if number sum = lowChecksum before % 65536 then some rest else none

/-- Skips a part of the header if its flag is set. -/
def skip? (flags : Nat) (flag : Nat) (after? : List UInt8 → Option (List UInt8))
    (bytes : List UInt8) : Option (List UInt8) :=
  if flags.testBit flag then after? bytes else some bytes

/-- What follows the header: two marks, the method, flags, six bytes about the file, and the parts
that the flags announce. The three high flags have to be clear. -/
def afterHeader? (bytes : List UInt8) : Option (List UInt8) :=
  match bytes with
  | 0x1F :: 0x8B :: 8 :: flags :: rest => do
      let flags := flags.toNat
      if 32 ≤ flags then none
      let (_, rest) ← split? 6 rest
      let rest ← skip? flags 2 afterExtra? rest
      let rest ← skip? flags 3 afterText? rest
      let rest ← skip? flags 4 afterText? rest
      skip? flags 1 (afterChecksum? bytes) rest
  | _ => none

/-- The content of the first member, if its checksum and its length are right. -/
def decompress? (bytes : List UInt8) : Option (List UInt8) := do
  let body ← afterHeader? bytes
  let (out, rest) ← Deflate.inflate.run (body.flatMap lowFirst)
  let (trailer, _) ← (do
    BitReader.align
    let sum ← BitReader.lowNumber 32
    let length ← BitReader.lowNumber 32
    pure (sum, length) : BitReader (Nat × Nat)).run rest
  let out := out.toList
  if trailer.1 = lowChecksum out ∧ trailer.2 = out.length % twoPow 32 then some out else none

end Gleaner.Compression.Gzip
