set_option autoImplicit false

/-! Streams of bits, and reading numbers from them. -/
namespace Gleaner.Compression

/-- The bits of a byte, the lowest first. -/
def lowFirst (byte : UInt8) : List Bool :=
  (List.range 8).map byte.toNat.testBit

/-- The bits of a byte, the highest first. -/
def highFirst (byte : UInt8) : List Bool :=
  (lowFirst byte).reverse

/-- Takes something from the front of a stream of bits, or fails. -/
abbrev BitReader := StateT (List Bool) Option

namespace BitReader

def bit : BitReader Bool
  | [] => none
  | b :: bits => some (b, bits)

/-- A number of the given width, its lowest bit first. -/
def lowNumber : Nat → BitReader Nat
  | 0 => pure 0
  | width + 1 => do
      let b ← bit
      let rest ← lowNumber width
      pure (b.toNat + 2 * rest)

/-- A number of the given width, its highest bit first; `high` is what stands before it. -/
def highNumberFrom (high : Nat) : Nat → BitReader Nat
  | 0 => pure high
  | width + 1 => do
      let b ← bit
      highNumberFrom (2 * high + b.toNat) width

def highNumber (width : Nat) : BitReader Nat := highNumberFrom 0 width

/-- The same reader several times over. -/
def times {α : Type} (reader : BitReader α) : Nat → BitReader (List α)
  | 0 => pure []
  | n + 1 => do
      let first ← reader
      let others ← times reader n
      pure (first :: others)

/-- Skips to the next byte; a stream of whole bytes has as many bits left over as the rest of its
length by eight. -/
def align : BitReader Unit := fun bits => some ((), bits.drop (bits.length % 8))

/-- Goes on only if the condition holds. -/
def require (condition : Bool) : BitReader Unit := if condition then pure () else failure

end BitReader

end Gleaner.Compression
