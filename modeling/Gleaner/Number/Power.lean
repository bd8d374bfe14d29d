set_option autoImplicit false

/-!
Powers of two and of ten, and the whole numbers that a machine word of a given width holds. A word
with a sign spends one of its bits on it.
-/
namespace Gleaner

def twoPow (n : Nat) : Nat := Nat.pow 2 n

def tenPow (n : Nat) : Nat := Nat.pow 10 n

@[simp] theorem twoPow_zero : twoPow 0 = 1 := rfl

theorem twoPow_succ (n : Nat) : twoPow (n + 1) = 2 * twoPow n := Nat.mul_comm _ 2

theorem twoPow_pos (n : Nat) : 0 < twoPow n := Nat.pow_pos (by decide)

theorem twoPow_add (m n : Nat) : twoPow (m + n) = twoPow m * twoPow n := Nat.pow_add 2 m n

theorem twoPow_le {m n : Nat} (le : m ≤ n) : twoPow m ≤ twoPow n :=
  Nat.pow_le_pow_right (by decide) le

@[simp] theorem tenPow_zero : tenPow 0 = 1 := rfl

theorem tenPow_succ (n : Nat) : tenPow (n + 1) = 10 * tenPow n := Nat.mul_comm _ 10

theorem tenPow_pos (n : Nat) : 0 < tenPow n := Nat.pow_pos (by decide)

/-- A word of the given width without a sign holds the number. -/
def fitsUnsigned (width : Nat) (n : Int) : Bool := decide (0 ≤ n ∧ n < twoPow width)

/-- A word of the given width with a sign holds the number. -/
def fitsSigned (width : Nat) (n : Int) : Bool :=
  decide (-(twoPow (width - 1) : Int) ≤ n ∧ n < twoPow (width - 1))

/-- A word of the given width holds the number, with or without a sign. -/
def fitsWord (width : Nat) (n : Int) : Bool := fitsSigned width n || fitsUnsigned width n

end Gleaner
