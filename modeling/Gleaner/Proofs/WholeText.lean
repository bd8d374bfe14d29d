import Gleaner.Number.Positional
import Gleaner.Proofs.Digits
import Gleaner.Proofs.Whole

set_option autoImplicit false

/-!
How whole numbers are written, up to the last one before which all are represented: in full, as
their decimal numerals. Main statement: `Binary64.display_ofInt`.
-/
namespace Gleaner

/-- Zeros at the end of a numeral make it that of a multiple. -/
theorem Text.decimalDigits_shifted {n : Nat} (positive : 0 < n) (places : Nat) :
    decimalDigits (n * tenPow places) = decimalDigits n ++ List.replicate places '0' := by
  induction places with
  | zero => rw [tenPow_zero, Nat.mul_one, List.replicate_zero, List.append_nil]
  | succ places ih =>
    have shifted : n * tenPow (places + 1) = 10 * (n * tenPow places) := by
      rw [tenPow_succ, Nat.mul_left_comm]
    have larger := Nat.mul_pos positive (tenPow_pos places)
    rw [decimalDigits] at ih ⊢
    rw [shifted, Nat.toDigits_of_base_le (by decide) (by omega),
      Nat.mul_div_cancel_left _ (by decide), Nat.mul_mod_right, ih, List.replicate_succ',
      List.append_assoc]
    rfl

namespace Binary64

/-- The magnitude of a significand of full length that is shifted. -/
theorem units_shifted {significand : Nat} (lower : twoPow 52 ≤ significand)
    (upper : significand < twoPow 53) (shift : Nat) :
    units (shift * twoPow 52 + significand) = significand * twoPow shift ∧
      step (shift * twoPow 52 + significand) = shift := by
  have unit := twoPow_pos 52
  have double : twoPow 53 = 2 * twoPow 52 := twoPow_succ 52
  obtain ⟨fraction, rfl⟩ := Nat.exists_eq_add_of_le lower
  have bound : fraction < twoPow 52 := by omega
  have rank : shift * twoPow 52 + (twoPow 52 + fraction) = fraction + twoPow 52 * (shift + 1) := by
    rw [Nat.mul_add, Nat.mul_one, Nat.mul_comm]
    omega
  have quotient : (fraction + twoPow 52 * (shift + 1)) / twoPow 52 = shift + 1 := by
    rw [Nat.add_mul_div_left _ _ unit, Nat.div_eq_of_lt bound, Nat.zero_add]
  have remainder : (fraction + twoPow 52 * (shift + 1)) % twoPow 52 = fraction := by
    rw [Nat.add_mul_mod_self_left, Nat.mod_eq_of_lt bound]
  have large : ¬fraction + twoPow 52 * (shift + 1) < twoPow 52 := by
    rw [← rank]
    omega
  rw [rank]
  refine ⟨?_, by rw [step, quotient, Nat.add_sub_cancel]⟩
  rw [units, if_neg large, remainder, step, quotient, Nat.add_sub_cancel]

/-- Whole numbers up to a bound have a magnitude of their own, which is at most half of one away
from others, but for the last of them. -/
structure Ranked (m rank : Nat) : Prop where
  inside : rank < magnitudes
  exact : units rank = m * twoPow 1074
  near : step rank ≤ 1074 ∨ m = twoPow 53 ∧ step rank = 1075 ∧ rank = 1076 * twoPow 52

theorem exists_ranked {m : Nat} (positive : 0 < m) (bound : m ≤ twoPow 53) :
    ∃ rank, Ranked m rank := by
  have double : twoPow 53 = 2 * twoPow 52 := twoPow_succ 52
  have unit := twoPow_pos 52
  rcases Nat.lt_or_eq_of_le bound with less | rfl
  · have lower : twoPow m.log2 ≤ m := Nat.log2_self_le (by omega)
    have upper : m < twoPow (m.log2 + 1) := Nat.lt_log2_self
    have few : m.log2 < 53 := (Nat.log2_lt (by omega)).2 less
    generalize m.log2 = bits at lower upper few
    have least := Nat.mul_le_mul_right (twoPow (52 - bits)) lower
    have most := Nat.mul_lt_mul_of_pos_right upper (twoPow_pos (52 - bits))
    rw [← twoPow_add, show bits + (52 - bits) = 52 by omega] at least
    rw [← twoPow_add, show bits + 1 + (52 - bits) = 53 by omega] at most
    obtain ⟨exact, step⟩ := units_shifted least most (1022 + bits)
    refine ⟨_, ?_, exact.trans ?_, .inl (step.trans_le (by omega))⟩
    · have shifted := Nat.mul_le_mul_right (twoPow 52) (show 1022 + bits ≤ 1074 by omega)
      rw [magnitudes]
      omega
    · rw [Nat.mul_assoc, ← twoPow_add, show 52 - bits + (1022 + bits) = 1074 by omega]
  · obtain ⟨exact, step⟩ := units_shifted (Nat.le_refl _) (by omega) 1075
    refine ⟨_, ?_, exact.trans ?_, .inr ⟨rfl, step, by omega⟩⟩
    · rw [magnitudes]
      omega
    · rw [← twoPow_add, ← twoPow_add]

theorem quarters_whole : twoPow 1076 = 4 * twoPow 1074 := by
  rw [twoPow_succ, twoPow_succ, ← Nat.mul_assoc]

theorem quarters_units {m rank : Nat} (exact : units rank = m * twoPow 1074) :
    4 * units rank = m * twoPow 1076 := by
  rw [exact, quarters_whole, Nat.mul_left_comm]

/-- Of the whole numbers only this one rounds to the magnitude, and at the end of those that all are
represented perhaps the next. -/
structure Lone (m rank : Nat) : Prop where
  holds : (cell rank).holds (m * twoPow 1076) 1 = true
  apart : ∀ j, (cell rank).holds (j * twoPow 1076) 1 = true → j = m ∨ m = twoPow 53 ∧ j = m + 1

theorem Cell.bounds_of_holds {c : Cell} {num : Nat} (holds : c.holds num 1 = true) :
    c.low ≤ num ∧ num ≤ c.high := by
  unfold Cell.holds at holds
  split at holds
  all_goals
    simp only [Nat.mul_one, Bool.and_eq_true, decide_eq_true_eq] at holds
    omega

theorem Cell.holds_of_between {c : Cell} {num : Nat} (lower : c.low < num) (upper : num < c.high) :
    c.holds num 1 = true := by
  unfold Cell.holds
  split
  all_goals
    simp only [Nat.mul_one, Bool.and_eq_true, decide_eq_true_eq]
    omega

theorem cell_low (rank : Nat) :
    4 * units rank - 2 * twoPow (step rank) ≤ (cell rank).low ∧
      (cell rank).low ≤ 4 * units rank - twoPow (step rank) ∧
      (rank % twoPow 52 = 0 ∧ twoPow 52 < rank →
        (cell rank).low = 4 * units rank - twoPow (step rank)) := by
  simp only [cell]
  split
  · exact ⟨by omega, Nat.le_refl _, fun _ => rfl⟩
  · next other => exact ⟨Nat.le_refl _, by omega, fun first => absurd first other⟩

theorem Ranked.lone {m rank : Nat} (ranked : Ranked m rank) (positive : 0 < m) : Lone m rank := by
  have four := quarters_whole
  have quarters := quarters_units ranked.exact
  have gap := twoPow_pos (step rank)
  have filled := Nat.mul_pos positive (twoPow_pos 1076)
  obtain ⟨least, most, first⟩ := cell_low rank
  have high : (cell rank).high = 4 * units rank + 2 * twoPow (step rank) := rfl
  rw [quarters] at least most first high
  refine ⟨Cell.holds_of_between (by omega) (by omega), fun j holds => ?_⟩
  obtain ⟨lower, upper⟩ := Cell.bounds_of_holds holds
  have below : j < m → j * twoPow 1076 + twoPow 1076 ≤ m * twoPow 1076 := by
    intro less
    rw [← Nat.succ_mul]
    exact Nat.mul_le_mul_right _ less
  have above : m < j → m * twoPow 1076 + twoPow 1076 ≤ j * twoPow 1076 := by
    intro more
    rw [← Nat.succ_mul]
    exact Nat.mul_le_mul_right _ more
  rcases ranked.near with near | ⟨last, wide, start⟩
  · have close := twoPow_le near
    exact .inl (by omega)
  · have unit := twoPow_pos 52
    have two : twoPow 1076 = 2 * twoPow (step rank) := by rw [wide, twoPow_succ]
    have first := first ⟨by rw [start, Nat.mul_mod_left], by omega⟩
    have next : m + 1 < j → (m + 2) * twoPow 1076 ≤ j * twoPow 1076 :=
      fun more => Nat.mul_le_mul_right _ more
    rw [Nat.add_mul] at next
    omega

/-- A whole number stands on the grids of the powers of ten that divide it, and nothing stands for
it on coarser ones. -/
theorem Lone.gridPoint? {m rank : Nat} (lone : Lone m rank)
    (exact : units rank = m * twoPow 1074) (tie : Tie) (places : Nat) :
    gridPoint? tie rank places =
      if tenPow places ∣ m then some (m / tenPow places) else none := by
  have quarters : 4 * units rank = twoPow 1076 * m := by
    rw [quarters_units exact, Nat.mul_comm]
  have scale : tenPow (-(places : Int)).toNat = 1 := by
    rw [show (-(places : Int)).toNat = 0 by omega, tenPow_zero]
  have positive := twoPow_pos 1076
  have fits (k : Nat) : (cell rank).holds (k * (twoPow 1076 * tenPow places)) 1 =
      (cell rank).holds (k * tenPow places * twoPow 1076) 1 := by
    rw [Nat.mul_comm (twoPow 1076), Nat.mul_assoc]
  simp only [Binary64.gridPoint?, scale, Nat.mul_one, Int.toNat_natCast, quarters, fits,
    Nat.mul_div_mul_left _ _ positive, Nat.mul_mod_mul_left]
  have filled := Nat.mul_pos positive (tenPow_pos places)
  by_cases divides : tenPow places ∣ m
  · -- The next point may read back too, but this one is at no distance.
    have stands : (cell rank).holds (m / tenPow places * tenPow places * twoPow 1076) 1 = true := by
      rw [Nat.div_mul_cancel divides]
      exact lone.holds
    have nearer : ¬(twoPow 1076 * tenPow places < 0) ∧ 0 ≠ twoPow 1076 * tenPow places := by omega
    rw [stands, Nat.mod_eq_zero_of_dvd divides, if_pos divides]
    cases (cell rank).holds ((m / tenPow places + 1) * tenPow places * twoPow 1076) 1 with
    | false => rfl
    | true =>
      simp only [Nat.mul_zero, nearer.1, nearer.2, decide_false, Bool.false_and, Bool.or_false,
        Bool.false_eq_true, ↓reduceIte]
  · have nothing (k : Nat) : (cell rank).holds (k * tenPow places * twoPow 1076) 1 = false := by
      refine Bool.eq_false_iff.2 fun holds => ?_
      rcases lone.apart _ holds with same | ⟨rfl, next⟩
      · exact divides (Dvd.intro_left k same)
      · cases places with
        | zero => exact divides (Nat.one_dvd _)
        | succ places =>
          -- The number behind the last one is odd, so it is on no coarser grid.
          have even : (twoPow 53 + 1) % 2 = 0 := by
            rw [← next, tenPow_succ, show (10 : Nat) = 2 * 5 from rfl, Nat.mul_assoc,
              Nat.mul_left_comm, Nat.mul_mod_right]
          exact absurd even (by decide)
    rw [nothing, nothing, if_neg divides]

/-- From a coarse grid down, the first that a whole number stands on is that of a power of ten that
divides it. -/
theorem Lone.shortestFrom {m rank : Nat} (lone : Lone m rank)
    (exact : units rank = m * twoPow 1074) (tie : Tie) (start fuel : Nat) (enough : start < fuel) :
    ∃ places, tenPow places ∣ m ∧
      shortestFrom tie rank fuel start = ⟨m / tenPow places, places⟩ := by
  induction start generalizing fuel with
  | zero =>
    obtain ⟨fuel, rfl⟩ := Nat.exists_eq_add_of_lt enough
    have whole := (lone.gridPoint? exact tie 0).trans (if_pos (Nat.one_dvd m))
    refine ⟨0, Nat.one_dvd m, ?_⟩
    rw [Binary64.shortestFrom, whole]
  | succ start ih =>
    obtain ⟨fuel, rfl⟩ := Nat.exists_eq_add_of_lt enough
    have stands := lone.gridPoint? exact tie (start + 1)
    by_cases divides : tenPow (start + 1) ∣ m
    · rw [if_pos divides] at stands
      refine ⟨start + 1, divides, ?_⟩
      rw [Binary64.shortestFrom, stands]
    · rw [if_neg divides] at stands
      obtain ⟨places, divides, shortest⟩ := ih (start + 1 + fuel) (by omega)
      refine ⟨places, divides, ?_⟩
      rw [Binary64.shortestFrom, stands, ← shortest, Nat.cast_succ, add_sub_cancel_right]

theorem shortest_whole {m rank : Nat} (ranked : Ranked m rank) (positive : 0 < m) (tie : Tie) :
    ∃ places, tenPow places ∣ m ∧ shortest tie rank = ⟨m / tenPow places, places⟩ := by
  have nonzero : rank ≠ 0 := by
    rintro rfl
    have none : m * twoPow 1074 = 0 := ranked.exact.symm
    have := Nat.mul_pos positive (twoPow_pos 1074)
    omega
  rw [shortest, if_neg nonzero]
  exact (ranked.lone positive).shortestFrom ranked.exact tie _ _ (by omega)

/-- A whole number as positional text, when zeros at its end are left to the exponent. -/
theorem positional_whole {m places : Nat} (positive : 0 < m) (divides : tenPow places ∣ m) :
    positional ⟨m / tenPow places, places⟩ = Text.decimalDigits m := by
  have multiple := Nat.div_mul_cancel divides
  have positive : 0 < m / tenPow places :=
    Nat.div_pos (Nat.le_of_dvd positive divides) (tenPow_pos _)
  rw [positional, if_pos (Int.natCast_nonneg places), if_neg (by exact Nat.ne_of_gt positive),
    Int.toNat_natCast, ← Text.decimalDigits_shifted positive, multiple]

/-- The text of an integer. -/
theorem toString_int (n : Int) : toString n =
    String.ofList (if n < 0 then '-' :: Text.decimalDigits n.natAbs
      else Text.decimalDigits n.natAbs) := by
  cases n with
  | ofNat n => exact congrArg String.ofList (if_neg (Int.not_lt.2 (Int.natCast_nonneg n))).symm
  | negSucc n =>
    rw [if_pos (Int.negSucc_lt_zero n), String.ofList_cons]
    rfl

theorem ofInt_zero : ofInt 0 = zero := by
  rw [ofInt, ofRatio, Int.natAbs_zero, Nat.zero_mul]
  exact congrArg (ofRank false) (rankOfUnits_units 0)

theorem display_zero : zero.display = "0" := by
  simp only [zero, display, shortest, Bool.false_eq_true, ↓reduceIte]
  rfl

theorem ofInt_whole {n : Int} {rank : Nat} (ranked : Ranked n.natAbs rank) :
    ofInt n = .finite (decide (n < 0)) ⟨rank, ranked.inside⟩ := by
  rw [ofInt, ofRatio, ← ranked.exact, rankOfUnits_units, ofRank, dif_pos ranked.inside]

/-- An integer up to the last one before which all are represented is written in full. -/
theorem display_ofInt {n : Int} (bound : n.natAbs ≤ twoPow 53) :
    (ofInt n).display = toString n := by
  rw [toString_int]
  by_cases nothing : n = 0
  · rw [nothing, ofInt_zero, display_zero]
    rfl
  · have positive : 0 < n.natAbs := by omega
    obtain ⟨rank, ranked⟩ := exists_ranked positive bound
    obtain ⟨places, divides, shortest⟩ := shortest_whole ranked positive .up
    rw [ofInt_whole ranked, display, shortest, positional_whole positive divides]
    simp only [decide_eq_true_eq]

/-- Such an integer is also what its number stands for. -/
theorem toInt?_ofInt {n : Int} (bound : n.natAbs ≤ twoPow 53) : (ofInt n).toInt? = some n := by
  by_cases nothing : n = 0
  · have empty : units 0 = 0 := rfl
    rw [nothing, ofInt_zero, zero, toInt?]
    simp only [empty, Nat.zero_mod, Nat.zero_div, ↓reduceIte]
    rfl
  · obtain ⟨rank, ranked⟩ := exists_ranked (by omega) bound
    have sign : (if decide (n < 0) then -(n.natAbs : Int) else n.natAbs) = n := by
      simp only [decide_eq_true_eq]
      omega
    rw [ofInt_whole ranked, toInt?]
    simp only [ranked.exact, Nat.mul_mod_left, Nat.mul_div_cancel _ (twoPow_pos 1074), ↓reduceIte,
      sign]

end Binary64

end Gleaner
