import Gleaner.Yaml.Cursor

set_option autoImplicit false

/-! What stands between the words of a scalar over several lines, and how lines are folded. -/
namespace Gleaner.Yaml

/-- Blanks and line ends between two stretches of a scalar. -/
structure Gap where
  /-- The blanks before the first line end. -/
  blanks : List Char := []
  /-- The first line end. -/
  first : List Char := []
  /-- The line ends after it. -/
  others : List Char := []
  /-- The stretches are on different lines. -/
  isBroken : Bool := false

namespace Gap

/-- A single line end counts as a blank; more of them count without the first. -/
def fold (first others : List Char) : List Char :=
  if first = ['\n'] then (if others.isEmpty then [' '] else others) else first ++ others

def text (gap : Gap) : List Char :=
  if gap.isBroken then fold gap.first gap.others else gap.blanks

/-- The line ends after the first, with the blanks around them. A tab before the given column is
refused. -/
def readBroken (indent : Int) : Nat → Scan (List Char)
  | 0 => pure []
  | fuel + 1 => do
      if ← Scan.isNext isBlank then
        if (← Scan.isNext (· == '\t')) && decide ((← Scan.column : Int) < indent) then failure
        Scan.skip 1
        readBroken indent fuel
      else if ← Scan.isNext isBreak then
        let found ← Scan.lineBreak
        (found ++ ·) <$> readBroken indent fuel
      else pure []

/-- The gap that starts here; `isBroken` says that its first line end is already behind. -/
def read (indent : Int) (isBroken : Bool) : Scan Gap := do
  if isBroken then
    pure { others := ← readBroken indent (← Scan.fuel), isBroken := true }
  else
    let blanks ← Scan.takeWhile isBlank
    if ← Scan.isNext isBreak then
      let first ← Scan.lineBreak
      pure { first, others := ← readBroken indent (← Scan.fuel), isBroken := true }
    else pure { blanks }

end Gap

end Gleaner.Yaml
