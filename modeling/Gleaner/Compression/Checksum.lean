import Gleaner.Number.Power

set_option autoImplicit false

/-!
Cyclic checksums of 32 bits over the polynomial x³² + x²⁶ + x²³ + x²² + x¹⁶ + x¹² + x¹¹ + x¹⁰ + x⁸ +
x⁷ + x⁵ + x⁴ + x² + x + 1, with the bits of a byte taken from either end.
-/
namespace Gleaner.Compression

/-- Divides one bit out, the lowest being the next. -/
def lowStep (register : Nat) : Nat :=
  if register % 2 = 1 then (register / 2) ^^^ 0xEDB88320 else register / 2

def lowByte (register : Nat) (byte : UInt8) : Nat :=
  Nat.repeat lowStep 8 (register ^^^ byte.toNat)

/-- The checksum that takes the lowest bit of each byte first. -/
def lowChecksum (bytes : List UInt8) : Nat :=
  bytes.foldl lowByte 0xFFFFFFFF ^^^ 0xFFFFFFFF

/-- Divides one bit out, the highest being the next. -/
def highStep (register : Nat) : Nat :=
  if twoPow 31 ≤ register then (2 * register % twoPow 32) ^^^ 0x04C11DB7 else 2 * register

def highByte (register : Nat) (byte : UInt8) : Nat :=
  Nat.repeat highStep 8 (register ^^^ (byte.toNat * twoPow 24))

/-- The checksum that takes the highest bit of each byte first. -/
def highChecksum (bytes : List UInt8) : Nat :=
  bytes.foldl highByte 0xFFFFFFFF ^^^ 0xFFFFFFFF

end Gleaner.Compression
