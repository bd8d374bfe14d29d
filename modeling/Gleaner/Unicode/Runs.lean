import Gleaner.CharSet
import Gleaner.Text.Digits

set_option autoImplicit false

/-! Tables of code points written as text, in hexadecimal. -/
namespace Gleaner

namespace Unicode

/-- The words between blanks and line breaks. -/
def wordsOf (text : String) : List String :=
  ((text.splitOn "\n").flatMap fun line => line.splitOn " ").filter fun word => !word.isEmpty

def hexOf? (word : String) : Option Nat :=
  (word.toList.mapM Text.hexValue?).map (Text.ofDigitValues 16)

/-- A range `first-last`, or a single code point. -/
def rangeOf? (word : String) : Option (Nat × Nat) :=
  match word.splitOn "-" with
  | [one] => (hexOf? one).map fun n => (n, n)
  | [first, last] => do
      let first ← hexOf? first
      let last ← hexOf? last
      some (first, last)
  | _ => none

/-- Two parts around a colon. -/
def pairOf? (word : String) : Option (String × String) :=
  match word.splitOn ":" with
  | [a, b] => some (a, b)
  | _ => none

/-- Code points from `start` up to the next run have the label. -/
structure Run where
  start : Nat
  label : String

def runsOf (text : String) : List Run :=
  (wordsOf text).filterMap fun word => do
    let (start, label) ← pairOf? word
    let start ← hexOf? start
    some ⟨start, label⟩

/-- The ranges whose label satisfies `p`. -/
def rangesLabelled (p : String → Bool) : List Run → List (Nat × Nat)
  | [] => []
  | [r] => if p r.label then [(r.start, CharSet.highest)] else []
  | r :: next :: rest =>
      if p r.label then (r.start, next.start - 1) :: rangesLabelled p (next :: rest)
      else rangesLabelled p (next :: rest)

end Unicode

/-- The set of the ranges listed in a text. -/
def CharSet.ofText (text : String) : CharSet :=
  CharSet.ofRanges ((Unicode.wordsOf text).filterMap Unicode.rangeOf?)

end Gleaner
