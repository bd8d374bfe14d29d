import Gleaner.Number.Positional
import Gleaner.Number.Power
import Gleaner.Text.Scan
import Gleaner.Tree

set_option autoImplicit false

/-! Numbers in TOML. -/
namespace Gleaner.Toml

open Text Text.Scan

/-- Digits with single underscores between them, which do not count. -/
def digitRun (isDigit : Char → Bool) : Nat → Scan (List Char)
  | 0 => failure
  | fuel + 1 => do
      let c ← charIf isDigit
      (do
        let _ ← skip '_'
        (c :: ·) <$> digitRun isDigit fuel) <|> pure [c]

/-- A run of digits of any length. -/
def run (isDigit : Char → Bool) : Scan (List Char) := do
  digitRun isDigit (← left)

/-- An optional sign. -/
def sign : Scan (List Char) := do
  if ← skip '-' then pure ['-']
  else
    let _ ← skip '+'
    pure []

/-- Decimal digits, of which only a lone zero may start with zero. -/
def decimalRun : Scan (List Char) := do
  if ← isNext (· == '0') then
    exactly '0'
    pure ['0']
  else run isDigit

/-- Whole numbers have 64 bits, one of them for the sign. -/
def integerOf (negative : Bool) (magnitude : Nat) : Option Tree :=
  let n : Int := if negative then -magnitude else magnitude
  if fitsSigned 64 n then some (.integer n) else none

/-- A whole number in another base, after its mark. -/
def inBase (base : Nat) : Scan Tree := do
  let cs ← run fun c => ((hexValue? c).map fun d => decide (d < base)).getD false
  match integerOf false (ofDigitValues base (cs.filterMap hexValue?)) with
  | some t => pure t
  | none => failure

def decimal : Scan Tree := do
  let negative ← sign
  let cs ← decimalRun
  match integerOf (!negative.isEmpty) (ofDigits cs) with
  | some t => pure t
  | none => failure

def integer : Scan Tree := do
  (do word ['0', 'x']; inBase 16) <|> (do word ['0', 'o']; inBase 8) <|>
    (do word ['0', 'b']; inBase 2) <|> decimal

/-- The exponent of a number. -/
def exponentPart : Scan (List Char) := do
  let _ ← charIf fun c => c == 'e' || c == 'E'
  let negative ← sign
  let cs ← run isDigit
  pure ('e' :: negative ++ cs)

def fractionPart : Scan (List Char) := do
  exactly '.'
  let cs ← run isDigit
  pure ('.' :: cs)

/-- The text of a number with a fraction or an exponent. -/
def floatChars : Scan (List Char) := do
  let negative ← sign
  let whole ← decimalRun
  let rest ← (do
    let fraction ← fractionPart
    let exponent ← exponentPart <|> pure []
    pure (fraction ++ exponent)) <|> exponentPart
  pure (negative ++ whole ++ rest)

/-- Infinities and the value that is no number, by their names. -/
def namedFloat : Scan Tree := do
  let negative := !(← sign).isEmpty
  (do word ['i', 'n', 'f']; pure (.float (.infinite negative))) <|>
    (do word ['n', 'a', 'n']; pure (.float .nan))

/-- A floating point number. One that is too large is refused, one that is too small for its sign
is infinite. -/
def float : Scan Tree := do
  (do
    let cs ← floatChars
    match (Binary64.numeral? cs).map Binary64.Numeral.value with
    | some (.infinite false) => failure
    | some x => pure (.float x)
    | none => failure) <|> namedFloat

/-- The start of a number with a fraction or an exponent. -/
def isFloatNext : Scan Bool := fun cs => some ((floatChars cs).isSome, cs)

def number : Scan Tree := do
  if ← isFloatNext then float else namedFloat <|> integer

end Gleaner.Toml
