import Gleaner.Proofs.Whole
import Mathlib.Algebra.Order.Field.Rat
import Mathlib.Algebra.Order.Field.Power
import Mathlib.Tactic.Linarith
import Mathlib.Tactic.Ring

set_option autoImplicit false

/-!
Where numbers become infinite. A rational is rounded to a finite number just if its magnitude is
less than halfway from the largest finite one to the power of two after it. Main statement:
`Binary64.ofDecimal_isFinite_iff`.
-/
namespace Gleaner.Binary64

/-- Rounding gives an odd number at most just if the quotient is less than halfway to the next: a
half goes to that one, which is even. -/
theorem divHalfEven_le_iff (num : Nat) {den : Nat} (positive : 0 < den) {k : Nat}
    (odd : k % 2 = 1) : divHalfEven num den ≤ k ↔ 2 * num < (2 * k + 1) * den := by
  have parts := Nat.div_add_mod' num den
  have rest := Nat.mod_lt num positive
  simp only [divHalfEven]
  generalize num / den = quotient at parts ⊢
  generalize num % den = remainder at parts rest ⊢
  subst parts
  have half : (2 * k + 1) * den = 2 * (k * den) + den := by
    rw [Nat.add_mul, Nat.one_mul, Nat.mul_assoc]
  rw [half]
  rcases Nat.lt_trichotomy quotient k with less | rfl | more
  · have := Nat.mul_le_mul_right den (Nat.succ_le_of_lt less)
    rw [Nat.succ_mul] at this
    split <;> omega
  · split <;> omega
  · have := Nat.mul_le_mul_right den (Nat.succ_le_of_lt more)
    rw [Nat.succ_mul] at this
    split <;> omega

/-- The quotient has at most 53 bits more than it is shifted by, and all of them where it is
shifted. -/
theorem shift_bounds (num : Nat) {den : Nat} (positive : 0 < den) :
    num < twoPow ((num / den).log2 - 52 + 53) * den ∧
      ((num / den).log2 - 52 ≠ 0 → twoPow ((num / den).log2 - 52 + 52) * den ≤ num) := by
  rw [← Nat.div_lt_iff_lt_mul positive, ← Nat.le_div_iff_mul_le positive]
  generalize num / den = quotient
  refine ⟨?_, fun shifted => ?_⟩
  · by_cases zero : quotient = 0
    · exact zero ▸ twoPow_pos _
    · have bits : quotient < twoPow (quotient.log2 + 1) := Nat.lt_log2_self
      exact Nat.lt_of_lt_of_le bits (twoPow_le (by omega))
  · have nonzero : quotient ≠ 0 := by
      rintro rfl
      exact shifted (by decide)
    have bits : twoPow quotient.log2 ≤ quotient := Nat.log2_self_le nonzero
    exact Nat.le_trans (twoPow_le (by omega)) bits

/-- Below the ranks of an exponent are the magnitudes that are less than halfway from the last one
before to the first one of it. -/
theorem rankOfUnits_lt_iff (exponent num : Nat) {den : Nat} (positive : 0 < den) :
    rankOfUnits num den < (exponent + 3) * twoPow 52 ↔
      num < (twoPow 54 - 1) * (twoPow exponent * den) := by
  obtain ⟨upper, lower⟩ := shift_bounds num positive
  have rounded {k : Nat} (odd : k % 2 = 1) := divHalfEven_le_iff num
    (Nat.mul_pos positive (twoPow_pos ((num / den).log2 - 52))) odd
  have unit : twoPow 52 = 4503599627370496 := rfl
  have full : twoPow 53 = 9007199254740992 := rfl
  have limit : twoPow 54 - 1 = 18014398509481983 := rfl
  simp only [rankOfUnits]
  generalize (num / den).log2 - 52 = shift at upper lower rounded ⊢
  rw [Nat.mul_comm den] at rounded ⊢
  rw [Nat.add_comm, twoPow_add, Nat.mul_assoc, full] at upper
  rw [Nat.add_comm, twoPow_add, Nat.mul_assoc, unit] at lower
  rw [unit, limit]
  clear unit full limit
  have filled := Nat.mul_pos (twoPow_pos exponent) positive
  generalize same : twoPow exponent * den = half at filled ⊢
  rcases Nat.lt_trichotomy shift (exponent + 1) with less | rfl | more
  · -- Even rounded up, the number has a smaller exponent.
    have scaled := Nat.mul_le_mul_right den (twoPow_le (Nat.le_of_lt_succ less))
    have round := (rounded (k := 9007199254740993) rfl).2
    rw [same] at scaled
    generalize divHalfEven num (twoPow shift * den) = quotient at round ⊢
    generalize twoPow shift * den = scale at upper scaled round
    have := round (by omega)
    omega
  · have round := rounded (k := 9007199254740991) rfl
    generalize divHalfEven num (twoPow (exponent + 1) * den) = quotient at round ⊢
    rw [twoPow_succ, Nat.mul_assoc, same] at round
    omega
  · have scaled := Nat.mul_le_mul_right den (twoPow_le (Nat.succ_le_of_lt more))
    have round := rounded (k := 4503599627370495) rfl
    have least := lower (by omega)
    rw [Nat.succ_eq_add_one, twoPow_succ, twoPow_succ, Nat.mul_assoc, Nat.mul_assoc, same] at scaled
    generalize divHalfEven num (twoPow shift * den) = quotient at round ⊢
    generalize twoPow shift * den = scale at least scaled round
    clear rounded lower upper
    omega

/-- What is below this magnitude is nearer to a finite number than to the next power of two. -/
def overflow : Nat := (twoPow 54 - 1) * twoPow 970

theorem ofRatio_isFinite_iff (negative : Bool) (num : Nat) {den : Nat} (positive : 0 < den) :
    (ofRatio negative num den).isFinite = true ↔ num < overflow * den := by
  have finite : (ofRatio negative num den).isFinite = true ↔
      rankOfUnits (num * twoPow 1074) den < magnitudes := by
    unfold ofRatio ofRank
    split <;> simp [isFinite, *]
  have ranked := rankOfUnits_lt_iff (970 + 1074) (num * twoPow 1074) positive
  have limit : (twoPow 54 - 1) * (twoPow (970 + 1074) * den) = overflow * den * twoPow 1074 := by
    rw [overflow, twoPow_add]
    generalize twoPow 1074 = units
    generalize twoPow 970 = least
    ring
  rw [limit, Nat.mul_lt_mul_right (twoPow_pos 1074)] at ranked
  exact finite.trans ranked

theorem twoPow_cast (n : Nat) : (twoPow n : ℚ) = 2 ^ n :=
  (Nat.cast_pow 2 n).trans (by rw [Nat.cast_ofNat])

theorem tenPow_cast (n : Nat) : (tenPow n : ℚ) = 10 ^ n :=
  (Nat.cast_pow 10 n).trans (by rw [Nat.cast_ofNat])

theorem overflow_cast : (overflow : ℚ) = 2 ^ 1024 - 2 ^ 970 := by
  rw [overflow, Nat.cast_mul, Nat.cast_sub (twoPow_pos 54), twoPow_cast, twoPow_cast, sub_mul,
    ← pow_add, Nat.cast_one, one_mul]

theorem overflow_pos : 0 < overflow :=
  Nat.mul_pos (by decide) (twoPow_pos 970)

theorem twoPow_le_tenPow (n : Nat) : twoPow (3 * n) ≤ tenPow n := by
  have eight : twoPow (3 * n) = 8 ^ n := Nat.pow_mul 2 3 n
  rw [eight]
  exact Nat.pow_le_pow_left (by decide) n

theorem overflow_le_tenPow {n : Nat} (large : 400 < n) : overflow ≤ tenPow n := by
  have top : overflow ≤ twoPow (54 + 970) := by
    rw [overflow, twoPow_add]
    exact Nat.mul_le_mul_right _ (Nat.sub_le _ _)
  exact top.trans ((twoPow_le (by omega)).trans (twoPow_le_tenPow n))

/-- Digits that are too few for the places that they are moved down stand for less than one. -/
theorem lt_tenPow_of_log2 {coefficient places : Nat}
    (few : coefficient.log2 + 1200 < 3 * places) : coefficient < tenPow places := by
  have bits : coefficient < twoPow (coefficient.log2 + 1) := Nat.lt_log2_self
  exact bits.trans_le ((twoPow_le (by omega)).trans (twoPow_le_tenPow places))

/-- The value of a numeral is finite just if it is less than the largest finite number and half
the step to the next. -/
theorem ofDecimal_isFinite_iff (negative : Bool) (coefficient : Nat) (exponent : Int) :
    (ofDecimal negative coefficient exponent).isFinite = true ↔
      (coefficient : ℚ) * 10 ^ exponent < 2 ^ 1024 - 2 ^ 970 := by
  rw [← overflow_cast]
  unfold ofDecimal
  split
  · next zero =>
    have positive : (0 : ℚ) < overflow := Nat.cast_pos.2 overflow_pos
    rw [zero, Nat.cast_zero, zero_mul]
    exact iff_of_true rfl positive
  · next nonzero =>
    obtain ⟨places, rfl⟩ | ⟨places, moved, rfl⟩ :
        (∃ places : Nat, exponent = places) ∨ ∃ places : Nat, 0 < places ∧ exponent = -places := by
      rcases lt_or_ge exponent 0 with down | up
      · exact .inr ⟨exponent.natAbs, by omega, by omega⟩
      · exact .inl ⟨exponent.toNat, (Int.toNat_of_nonneg up).symm⟩
    · have value : (coefficient : ℚ) * 10 ^ (places : ℤ) =
          ((coefficient * tenPow places : Nat) : ℚ) := by
        rw [zpow_natCast, Nat.cast_mul, tenPow_cast]
      rw [value, Nat.cast_lt]
      split
      · next large =>
        have least := overflow_le_tenPow (n := places) (by omega)
        have most := Nat.le_mul_of_pos_left (tenPow places) (Nat.pos_of_ne_zero nonzero)
        exact iff_of_false Bool.false_ne_true (Nat.not_lt.2 (least.trans most))
      · have here : (0 : ℤ) ≤ places := Int.natCast_nonneg places
        rw [if_pos here, ofRatio_isFinite_iff _ _ Nat.one_pos, Nat.mul_one, Int.toNat_natCast]
    · have scale := tenPow_pos places
      have value : (coefficient : ℚ) * 10 ^ (-places : ℤ) < overflow ↔
          coefficient < overflow * tenPow places := by
        rw [zpow_neg, zpow_natCast, ← tenPow_cast, ← div_eq_mul_inv,
          div_lt_iff₀ (Nat.cast_pos.2 scale), ← Nat.cast_mul, Nat.cast_lt]
      rw [value, if_neg (by omega), if_neg (by omega), Int.neg_neg, Int.toNat_natCast]
      split
      · next few =>
        have less := lt_tenPow_of_log2 few
        exact iff_of_true rfl (less.trans_le (Nat.le_mul_of_pos_left _ overflow_pos))
      · exact ofRatio_isFinite_iff negative coefficient scale

end Gleaner.Binary64
