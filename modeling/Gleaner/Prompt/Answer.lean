import Gleaner.Text.Blank
import Gleaner.Text.Digits
import Gleaner.Text.Parts

set_option autoImplicit false

/-! The answers of an operator: numbers from one on, between commas and blanks. -/
namespace Gleaner.Answer

def separates (c : Char) : Bool := c == ',' || c == ' '

/-- The pieces of an answer that are not blank, trimmed. -/
def pieces (answer : String) : List String :=
  ((Text.split separates answer).map Text.trim).filter fun piece => !piece.isEmpty

/-- The number that digits spell, perhaps after a plus sign. -/
def numeral? (piece : String) : Option Nat :=
  let digits := match piece.toList with
    | '+' :: digits => digits
    | digits => digits
  if digits.isEmpty || !digits.all Text.isDigit then none else some (Text.ofDigits digits)

/-- The index that a piece chooses, if it is the number of one of `count` candidates. -/
def index? (count : Nat) (piece : String) : Option Nat := do
  let n ← numeral? piece
  if 1 ≤ n ∧ n ≤ count then some (n - 1) else none

/-- The indices that an answer chooses. All of it is refused if a piece of it is no number of a
candidate, or if there are several where one is wanted. -/
def read? (count : Nat) (repeated : Bool) (answer : String) : Option (List Nat) := do
  let indices ← (pieces answer).mapM (index? count)
  if repeated || indices.length ≤ 1 then some indices else none

end Gleaner.Answer
