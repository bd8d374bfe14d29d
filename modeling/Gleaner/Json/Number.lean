import Gleaner.Number.Power
import Gleaner.Text.Digits
import Gleaner.Tree

set_option autoImplicit false

/-!
The value of a JSON number. Whole numbers of 64 bits are exact. Any other number is its leading
digits, as many as 64 bits hold, times a power of ten; the digits and the power are rounded before
they are multiplied or divided, so the result need not be the nearest one.
-/
namespace Gleaner.Json

/-- The parts of a number's text. -/
structure Numeral where
  negative : Bool
  whole : List Char
  fraction : Option (List Char)
  exponent : Option (Bool × List Char)

/-- The most that a significand holds. -/
def significandLimit : Nat := twoPow 64 - 1

/-- Appends digits to a significand while they fit, and counts those that do. -/
def significand (start : Nat) : List Char → Nat × Nat
  | [] => (start, 0)
  | c :: cs =>
      let next := start * 10 + Text.digitValue c
      if significandLimit < next then (start, 0)
      else
        let rest := significand next cs
        (rest.1, rest.2 + 1)

/-- Scales by a power of ten, at most 308 decimal places at a time; none when that overflows. -/
def scale (x : Binary64) (exponent : Int) : Option Binary64 :=
  if exponent.natAbs ≤ 308 then
    if 0 ≤ exponent then
      let product := x.mulPowerOfTen exponent.toNat
      if product.isInfinite then none else some product
    else some (x.divPowerOfTen exponent.natAbs)
  else if x.isZero then some x
  else if 0 ≤ exponent then none
  else scale (x.divPowerOfTen 308) (exponent + 308)
  termination_by exponent.natAbs
  decreasing_by omega

def exponentLimit : Nat := twoPow 31 - 1

/-- An exponent kept between the bounds of 32 bits. -/
def clampExponent (e : Int) : Int :=
  max (-(twoPow 31 : Int)) (min exponentLimit e)

/-- The value of a number's text; none when it is too large. -/
def Numeral.value? (n : Numeral) : Option Tree :=
  let whole := significand 0 n.whole
  let dropped := n.whole.length - whole.2
  let signed (x : Binary64) : Tree := .float (if n.negative then x.neg else x)
  if n.fraction.isNone && n.exponent.isNone && dropped == 0 then
    if !n.negative then some (.integer whole.1)
    else if whole.1 = 0 ∨ twoPow 63 < whole.1 then some (signed (Binary64.ofNat whole.1))
    else some (.integer (-(whole.1 : Int)))
  else
    let all := significand whole.1 (n.fraction.getD [])
    let start : Int := (dropped : Int) - all.2
    match n.exponent with
    | none => (scale (Binary64.ofNat all.1) start).map signed
    | some (minus, digits) =>
        let e := Text.ofDigits digits
        if exponentLimit < e then
          if all.1 ≠ 0 ∧ !minus then none else some (signed Binary64.zero)
        else
          let exponent := clampExponent (if minus then start - e else start + e)
          (scale (Binary64.ofNat all.1) exponent).map signed

end Gleaner.Json
