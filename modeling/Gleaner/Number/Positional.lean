import Gleaner.Number.Shortest
import Gleaner.Text.Digits

set_option autoImplicit false

/-!
Numbers as positional decimal text without exponent, and the numerals that are read as numbers.
-/
namespace Gleaner.Binary64

/-- The digits of a decimal with as many zeros, and a point where one is needed. -/
def positional (d : Decimal) : List Char :=
  let digits := Text.decimalDigits d.coefficient
  if 0 ≤ d.exponent then
    if d.coefficient = 0 then digits else digits ++ List.replicate d.exponent.toNat '0'
  else
    let places := d.exponent.natAbs
    let padded := List.replicate (places + 1 - digits.length) '0' ++ digits
    padded.take (padded.length - places) ++ '.' :: padded.drop (padded.length - places)

/-- The text of a number: the shortest that reads back, halfway cases upwards, in full. -/
def display : Binary64 → String
  | .finite negative rank =>
      let magnitude := positional (shortest .up rank)
      String.ofList (if negative then '-' :: magnitude else magnitude)
  | .infinite negative => if negative then "-inf" else "inf"
  | .nan => "NaN"

/-- The parts of a decimal numeral: digits with a point among them, and an exponent. -/
structure Numeral where
  negative : Bool
  coefficient : Nat
  exponent : Int

/-- An optional sign, and what follows it. -/
def sign : List Char → Bool × List Char
  | '-' :: rest => (true, rest)
  | '+' :: rest => (false, rest)
  | cs => (false, cs)

/-- The exponent after the digits of a numeral, zero where there is none. -/
def exponentPart? : List Char → Option Int
  | [] => some 0
  | c :: rest =>
      if c = 'e' ∨ c = 'E' then
        let (minus, digits) := sign rest
        if digits.isEmpty || !digits.all Text.isDigit then none
        else some (if minus then -(Text.ofDigits digits : Int) else Text.ofDigits digits)
      else none

/-- Digits with an optional point, at least one digit before or after it, and an optional
exponent. -/
def numeral? (cs : List Char) : Option Numeral :=
  let (negative, cs) := sign cs
  let (whole, rest) := cs.span Text.isDigit
  let (fraction, rest) := match rest with
    | '.' :: rest => rest.span Text.isDigit
    | rest => ([], rest)
  if whole.isEmpty && fraction.isEmpty then none
  else (exponentPart? rest).map fun e =>
    ⟨negative, Text.ofDigits (whole ++ fraction), e - fraction.length⟩

/-- The number nearest to what a numeral says. -/
def Numeral.value (n : Numeral) : Binary64 :=
  ofDecimal n.negative n.coefficient n.exponent

/-- Reads a numeral that denotes a finite number. -/
def parseFinite? (cs : List Char) : Option Binary64 :=
  match (numeral? cs).map Numeral.value with
  | some (.finite negative rank) => some (.finite negative rank)
  | _ => none

end Gleaner.Binary64
