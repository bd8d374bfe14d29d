import Gleaner.Text.Digits
import Mathlib.Data.List.TakeDrop
import Mathlib.Data.Nat.Digits.Defs

set_option autoImplicit false

/-!
Decimal digits and the numbers that they spell, digit by digit from the last one. Main statement:
`Text.spells_decimalDigits`.
-/
namespace Gleaner.Text

theorem isDigit_iff {c : Char} : isDigit c = true ↔ 0x30 ≤ c.toNat ∧ c.toNat ≤ 0x39 := by
  rw [isDigit, Bool.and_eq_true, decide_eq_true_eq, decide_eq_true_eq]
  rfl

theorem isDigit_of_mem_decimalDigits {n : Nat} {c : Char} (mem : c ∈ decimalDigits n) :
    isDigit c = true :=
  Nat.isDigit_of_mem_toDigits (by decide) (Nat.le_refl 10) mem

theorem ofDigits_eq (digits : List Char) (start : Nat) :
    (digits.map digitValue).foldl (fun acc d => acc * 10 + d) start =
      Nat.ofDigitChars 10 digits start := by
  rw [List.foldl_map, Nat.ofDigitChars]
  simp only [Nat.mul_comm 10]
  rfl

theorem ofDigits_decimalDigits (n : Nat) : ofDigits (decimalDigits n) = n :=
  (ofDigits_eq _ 0).trans (Nat.ofDigitChars_toDigits (by decide) (Nat.le_refl 10))

/-- A numeral does not start with a zero, unless it is that of zero. -/
theorem head?_decimalDigits {n : Nat} (positive : 0 < n) : (decimalDigits n).head? ≠ some '0' := by
  induction n using Nat.strongRecOn with
  | ind n ih =>
    unfold decimalDigits at ih ⊢
    by_cases small : n < 10
    · rw [Nat.toDigits_of_lt_base small]
      have digit : ∀ d : Fin 10, 0 < d.val → d.val.digitChar ≠ '0' := by decide
      exact fun same => digit ⟨n, small⟩ positive (Option.some.inj same)
    · have shorter := ih (n / 10) (by omega) (by omega)
      rw [Nat.toDigits_of_base_le (by decide) (by omega)]
      cases digits : Nat.toDigits 10 (n / 10) with
      | nil => exact absurd digits Nat.toDigits_ne_nil
      | cons d ds =>
        rw [digits] at shorter
        exact shorter

/-- The sum of the values of digits, each times the power of ten of its place. -/
def placeValue (digits : List Char) : Nat :=
  Nat.ofDigits 10 (digits.reverse.map digitValue)

theorem ofDigits_eq_placeValue (digits : List Char) : ofDigits digits = placeValue digits := by
  have sum : (fun acc d : Nat => acc * 10 + d) = fun acc d => d + 10 * acc := by
    funext acc d
    omega
  rw [ofDigits, ofDigitValues, sum, List.foldl_eq_foldr_reverse, ← List.map_reverse, placeValue,
    Nat.ofDigits_eq_foldr]
  rfl

theorem placeValue_append (before after : List Char) :
    placeValue (before ++ after) = placeValue before * 10 ^ after.length + placeValue after := by
  rw [placeValue, List.reverse_append, List.map_append, Nat.ofDigits_append, List.length_map,
    List.length_reverse, Nat.add_comm, Nat.mul_comm]
  rfl

/-- A decimal numeral: digits, one at least, and the number that they spell. -/
structure Spells (digits : List Char) (n : Nat) : Prop where
  nonempty : digits ≠ []
  decimal : ∀ c ∈ digits, isDigit c = true
  value : n = placeValue digits

theorem spells_iff {digits : List Char} {n : Nat} :
    Spells digits n ↔
      (digits ≠ [] ∧ ∀ c ∈ digits, isDigit c = true) ∧ n = ofDigits digits := by
  rw [ofDigits_eq_placeValue]
  exact ⟨fun spells => ⟨⟨spells.nonempty, spells.decimal⟩, spells.value⟩,
    fun ⟨⟨nonempty, decimal⟩, value⟩ => ⟨nonempty, decimal, value⟩⟩

theorem spells_decimalDigits (n : Nat) : Spells (decimalDigits n) n :=
  spells_iff.2 ⟨⟨Nat.toDigits_ne_nil, fun _ => isDigit_of_mem_decimalDigits⟩,
    (ofDigits_decimalDigits n).symm⟩

/-- Digits are taken up to where something else follows. -/
theorem span_digits {digits rest : List Char} (decimal : ∀ c ∈ digits, isDigit c = true)
    (stops : ∀ c, rest.head? = some c → isDigit c = false) :
    (digits ++ rest).span isDigit = (digits, rest) := by
  have ends : rest.takeWhile isDigit = [] ∧ rest.dropWhile isDigit = rest := by
    cases rest with
    | nil => exact ⟨rfl, rfl⟩
    | cons c cs =>
      have other : ¬isDigit c = true := Bool.eq_false_iff.1 (stops c rfl)
      exact ⟨List.takeWhile_cons_of_neg other, List.dropWhile_cons_of_neg other⟩
  rw [List.span_eq_takeWhile_dropWhile, List.takeWhile_append_of_pos decimal,
    List.dropWhile_append_of_pos decimal, ends.1, ends.2, List.append_nil]

end Gleaner.Text
