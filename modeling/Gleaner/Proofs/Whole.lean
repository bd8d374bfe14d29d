import Gleaner.Value

set_option autoImplicit false

/-!
Whole numbers as floating point numbers. A finite number that is whole is the number nearest to that
integer, but for the sign of zero. Main statement: `Binary64.ofInt_of_toInt?`.
-/
namespace Gleaner.Binary64

theorem divHalfEven_mul (quotient : Nat) {den : Nat} (positive : 0 < den) :
    divHalfEven (quotient * den) den = quotient := by
  have exact : ¬(den < 2 * 0 ∨ 2 * 0 = den ∧ quotient % 2 = 1) := by omega
  simp only [divHalfEven, Nat.mul_mod_left, Nat.mul_div_cancel _ positive, exact, ↓reduceIte]

/-- A significand of full length that is shifted has as many bits as both together. -/
theorem log2_shifted (significand bits : Nat) (lower : twoPow bits ≤ significand)
    (upper : significand < twoPow (bits + 1)) (shift : Nat) :
    (significand * twoPow shift).log2 = bits + shift := by
  have positive := twoPow_pos shift
  have least := Nat.mul_le_mul_right (twoPow shift) lower
  have most := Nat.mul_lt_mul_of_pos_right upper positive
  rw [← twoPow_add] at least most
  have nonzero : significand * twoPow shift ≠ 0 := by
    have := twoPow_pos (bits + shift)
    omega
  refine (Nat.log2_eq_iff nonzero).2 ⟨least, ?_⟩
  rw [Nat.add_right_comm]
  exact most

/-- A magnitude is the one nearest to itself. -/
theorem rankOfUnits_units (rank : Nat) : rankOfUnits (units rank) 1 = rank := by
  unfold rankOfUnits units
  split
  · next small =>
    have shift : (rank / 1).log2 - 52 = 0 := by
      rw [Nat.div_one]
      by_cases zero : rank = 0
      · subst zero
        rfl
      · have := (Nat.log2_lt zero).2 small
        omega
    simp only [shift, twoPow_zero, Nat.zero_mul, Nat.zero_add, Nat.mul_one]
    have exact := divHalfEven_mul rank Nat.one_pos
    rwa [Nat.mul_one] at exact
  · next large =>
    have unit := twoPow_pos 52
    have fraction := Nat.mod_lt rank unit
    have double : twoPow (52 + 1) = 2 * twoPow 52 := twoPow_succ 52
    have bits := log2_shifted (twoPow 52 + rank % twoPow 52) 52 (by omega) (by omega) (step rank)
    have shift :
        ((twoPow 52 + rank % twoPow 52) * twoPow (step rank) / 1).log2 - 52 = step rank := by
      rw [Nat.div_one, bits]
      omega
    simp only [shift, Nat.one_mul]
    rw [divHalfEven_mul _ (twoPow_pos _)]
    have parts := Nat.div_add_mod' rank (twoPow 52)
    have whole : 0 < rank / twoPow 52 := Nat.div_pos (Nat.le_of_not_lt large) unit
    -- The step is one less than the quotient, and the leading bit makes up for it.
    have up : (step rank + 1) * twoPow 52 = rank / twoPow 52 * twoPow 52 := by
      rw [step, Nat.sub_add_cancel whole]
    rw [Nat.add_mul, Nat.one_mul] at up
    omega

/-- A number without the sign of a zero. -/
def settled (x : Binary64) : Binary64 :=
  if x.isZero then zero else x

theorem eq_zero_of_units {rank : Nat} (zero : units rank = 0) : rank = 0 := by
  rw [← rankOfUnits_units rank, zero]
  rfl

/-- The sign of a number that is whole and not zero is that of the integer. -/
theorem toInt?_finite {negative : Bool} {rank : Fin magnitudes} {n : Int}
    (whole : (finite negative rank).toInt? = some n) :
    n.natAbs * twoPow 1074 = units rank ∧ (n ≠ 0 → decide (n < 0) = negative) := by
  obtain ⟨exact, same⟩ := Option.ite_none_right_eq_some.1 whole
  have multiple := Nat.div_mul_cancel (Nat.dvd_of_mod_eq_zero exact)
  generalize units rank / twoPow 1074 = magnitude at same multiple
  cases same
  rw [← multiple]
  cases negative with
  | false =>
    refine ⟨rfl, fun _ => decide_eq_false ?_⟩
    exact Int.not_lt.2 (Int.natCast_nonneg magnitude)
  | true =>
    simp only [↓reduceIte, Int.natAbs_neg, Int.natAbs_natCast, true_and, decide_eq_true_eq]
    omega

theorem ofInt_of_toInt? {x : Binary64} {n : Int} (whole : x.toInt? = some n) :
    ofInt n = x.settled := by
  cases x with
  | infinite negative => cases whole
  | nan => cases whole
  | finite negative rank =>
    obtain ⟨magnitude, sign⟩ := toInt?_finite whole
    have ranked : ofInt n = .finite (decide (n < 0)) rank := by
      rw [ofInt, ofRatio, magnitude, rankOfUnits_units, ofRank, dif_pos rank.isLt]
    rw [ranked, settled]
    by_cases zero : n = 0
    · subst zero
      rw [Int.natAbs_zero, Nat.zero_mul] at magnitude
      have nothing : rank.val = 0 := eq_zero_of_units magnitude.symm
      have isZero : (finite negative rank).isZero = true := decide_eq_true nothing
      rw [if_pos isZero]
      exact congrArg (finite false) (Fin.ext nothing)
    · have something : rank.val ≠ 0 := by
        intro nothing
        have none : units rank = 0 := by rw [nothing]; rfl
        have positive := twoPow_pos 1074
        rw [none, Nat.mul_eq_zero] at magnitude
        omega
      have notZero : (finite negative rank).isZero = false := decide_eq_false something
      rw [notZero, if_neg Bool.false_ne_true, sign zero]

end Gleaner.Binary64
