import Gleaner.Number.Power

set_option autoImplicit false

/-!
Binary floating point numbers of 64 bits, without machine arithmetic: a finite number is its sign
and the rank of its magnitude among the finite magnitudes. Rounding a quotient of natural numbers
to the nearest of them is the one operation that loses information.
-/
namespace Gleaner

/-- How many finite magnitudes there are. -/
def Binary64.magnitudes : Nat := 2047 * twoPow 52

/-- A number: the magnitude of rank `k` is the `k`-th finite one, counted from zero. -/
inductive Binary64 where
  | finite (negative : Bool) (rank : Fin Binary64.magnitudes)
  | infinite (negative : Bool)
  | nan
  deriving DecidableEq

namespace Binary64

/-- The exponent of the step between a magnitude and the next larger one, over that of the
smallest magnitude. -/
def step (rank : Nat) : Nat := rank / twoPow 52 - 1

/-- The magnitude as a multiple of the smallest one, 2^-1074. -/
def units (rank : Nat) : Nat :=
  if rank < twoPow 52 then rank else (twoPow 52 + rank % twoPow 52) * twoPow (step rank)

/-- The quotient rounded to the nearest integer, a half to the even one. -/
def divHalfEven (num den : Nat) : Nat :=
  let quotient := num / den
  let twice := 2 * (num % den)
  if den < twice ∨ (twice = den ∧ quotient % 2 = 1) then quotient + 1 else quotient

/-- The rank nearest to `num / den` times the smallest magnitude. Ranks past the finite ones
stand for infinity. -/
def rankOfUnits (num den : Nat) : Nat :=
  let shift := (num / den).log2 - 52
  shift * twoPow 52 + divHalfEven num (den * twoPow shift)

/-- The number of the given rank, infinite past the last finite one. -/
def ofRank (negative : Bool) (rank : Nat) : Binary64 :=
  if h : rank < magnitudes then .finite negative ⟨rank, h⟩ else .infinite negative

/-- The number nearest to `num / den`, ties to even. -/
def ofRatio (negative : Bool) (num den : Nat) : Binary64 :=
  ofRank negative (rankOfUnits (num * twoPow 1074) den)

def zero : Binary64 := .finite false ⟨0, by decide⟩

def ofNat (n : Nat) : Binary64 := ofRatio false n 1

def ofInt (n : Int) : Binary64 := ofRatio (decide (n < 0)) n.natAbs 1

instance : Inhabited Binary64 := ⟨zero⟩

def neg : Binary64 → Binary64
  | .finite negative rank => .finite (!negative) rank
  | .infinite negative => .infinite (!negative)
  | .nan => .nan

def isFinite : Binary64 → Bool
  | .finite _ _ => true
  | _ => false

def isInfinite : Binary64 → Bool
  | .infinite _ => true
  | _ => false

/-- Equal to zero, of either sign. -/
def isZero : Binary64 → Bool
  | .finite _ rank => rank.val = 0
  | _ => false

/-- The number as an integer, when it is a finite one without fraction. -/
def toInt? : Binary64 → Option Int
  | .finite negative rank =>
      let u := units rank
      if u % twoPow 1074 = 0 then
        let n : Int := (u / twoPow 1074 : Nat)
        some (if negative then -n else n)
      else none
  | _ => none

/-- The product of a finite number and `10 ^ power`, where the power of ten is itself rounded
first. -/
def mulPowerOfTen (x : Binary64) (power : Nat) : Binary64 :=
  match x, ofNat (tenPow power) with
  | .finite negative rank, .finite _ ten =>
      ofRatio negative (units rank * units ten) (twoPow 2148)
  | .finite negative _, _ => .infinite negative
  | other, _ => other

/-- The quotient of a finite number by `10 ^ power`, where the power of ten is itself rounded
first. -/
def divPowerOfTen (x : Binary64) (power : Nat) : Binary64 :=
  match x, ofNat (tenPow power) with
  | .finite negative rank, .finite _ ten => ofRatio negative (units rank) (units ten)
  | .finite negative _, _ => .finite negative ⟨0, by decide⟩
  | other, _ => other

/-- The number nearest to `coefficient * 10 ^ exponent`. Exponents that are out of reach for the
number of digits are settled without computing the power. -/
def ofDecimal (negative : Bool) (coefficient : Nat) (exponent : Int) : Binary64 :=
  if coefficient = 0 then .finite negative ⟨0, by decide⟩
  else if 400 < exponent then .infinite negative
  else if 0 ≤ exponent then ofRatio negative (coefficient * tenPow exponent.toNat) 1
  else if coefficient.log2 + 1200 < 3 * (-exponent).toNat then .finite negative ⟨0, by decide⟩
  else ofRatio negative coefficient (tenPow (-exponent).toNat)

end Binary64

end Gleaner
