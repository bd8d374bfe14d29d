import Gleaner.Number.Binary64

set_option autoImplicit false

/-!
The shortest decimal that reads back as a given magnitude: the coarsest power-of-ten grid with a
point among the reals that round to the magnitude, and on it the point nearest to the magnitude.
-/
namespace Gleaner

/-- `coefficient * 10 ^ exponent`. -/
structure Decimal where
  coefficient : Nat
  exponent : Int
  deriving DecidableEq

namespace Binary64

/-- Which of two grid points at the same distance is taken. -/
inductive Tie where
  | up
  | even

/-- The reals that round to the magnitude of a positive rank, as bounds in quarters of the
smallest magnitude; both bounds belong to it when the rank is even. -/
structure Cell where
  low : Nat
  high : Nat
  closed : Bool

def cell (rank : Nat) : Cell :=
  let gap := twoPow (step rank)
  let below := if rank % twoPow 52 = 0 ∧ twoPow 52 < rank then gap else 2 * gap
  ⟨4 * units rank - below, 4 * units rank + 2 * gap, rank % 2 = 0⟩

/-- The cell holds `num / den` quarters. -/
def Cell.holds (c : Cell) (num den : Nat) : Bool :=
  if c.closed then c.low * den ≤ num && num ≤ c.high * den
  else c.low * den < num && num < c.high * den

/-- The point of the grid of `10 ^ exponent` that stands for the magnitude, if one reads back. -/
def gridPoint? (tie : Tie) (rank : Nat) (exponent : Int) : Option Nat :=
  let scale := tenPow (-exponent).toNat
  let unit := twoPow 1076 * tenPow exponent.toNat
  let value := 4 * units rank * scale
  let below := value / unit
  let fits (k : Nat) := (cell rank).holds (k * unit) scale
  let twice := 2 * (value % unit)
  let upper := unit < twice || (twice = unit && match tie with
    | .up => true
    | .even => below % 2 = 1)
  match fits below, fits (below + 1) with
  | true, true => some (if upper then below + 1 else below)
  | true, false => some below
  | false, true => some (below + 1)
  | false, false => none

/-- Tries the grids from coarse to fine. -/
def shortestFrom (tie : Tie) (rank : Nat) : Nat → Int → Decimal
  | 0, exponent => ⟨0, exponent⟩
  | fuel + 1, exponent =>
      match gridPoint? tie rank exponent with
      | some k => ⟨k, exponent⟩
      | none => shortestFrom tie rank fuel (exponent - 1)

/-- An exponent whose grid is too coarse for the magnitude, or zero. -/
def coarseExponent (rank : Nat) : Nat :=
  (units rank / twoPow 1074).log2 / 3 + 1

/-- The shortest decimal for a magnitude. -/
def shortest (tie : Tie) (rank : Nat) : Decimal :=
  if rank = 0 then ⟨0, 0⟩
  else shortestFrom tie rank (coarseExponent rank + 1077) (coarseExponent rank)

end Binary64

end Gleaner
