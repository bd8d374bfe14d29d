import Gleaner.Text.Digits
import Gleaner.Yaml.Gap

set_option autoImplicit false

/-! Scalars that are set apart by indentation. -/
namespace Gleaner.Yaml

/-- What becomes of the line ends behind a scalar. -/
inductive Chomping where
  /-- None of them counts. -/
  | strip
  /-- The first of them counts. -/
  | clip
  | keep
  deriving DecidableEq

def chomping? : Scan (Option Chomping) := do
  match ← Scan.next? with
  | some '+' => Scan.skip 1; pure (some .keep)
  | some '-' => Scan.skip 1; pure (some .strip)
  | _ => pure none

/-- The indentation over that of the collection around, if it is given. -/
def increment? : Scan (Option Nat) := do
  match ← Scan.next? with
  | some c =>
      if c = '0' then failure
      else if Text.isDigit c then Scan.skip 1; pure (some (Text.digitValue c))
      else pure none
  | none => pure none

/-- The two signs behind the mark of a scalar, in either order. -/
def blockHeader : Scan (Chomping × Option Nat) := do
  match ← chomping? with
  | some chomping => pure (chomping, ← increment?)
  | none => do
      let increment ← increment?
      if increment.isSome then pure ((← chomping?).getD .clip, increment)
      else pure (.clip, none)

/-- Empty lines, and the deepest indentation among them and the line after them. Where the
indentation of the scalar is known, blanks past it are left. -/
def emptyLines (indent : Option Nat) : Nat → Nat → Scan (List Char × Nat)
  | 0, deepest => pure ([], deepest)
  | fuel + 1, deepest => do
      let inside (column : Nat) : Bool := (indent.map fun n => decide (column < n)).getD true
      let column ← Scan.column
      let blanks ← (fun c => some ((c.rest.takeWhile (· == ' ')).length, c) : Scan Nat)
      Scan.skip ((indent.map fun n => min blanks (n - column)).getD blanks)
      let column ← Scan.column
      if inside column && (← Scan.isNext (· == '\t')) then failure
      let deepest := max deepest column
      if ← Scan.isNext isBreak then
        let found ← Scan.lineBreak
        let (others, deepest) ← emptyLines indent fuel deepest
        pure (found ++ others, deepest)
      else pure ([], deepest)

/-- The lines of a scalar from the start of one on. `first` is the line end before it, `others` those
of the empty lines between, and `afterBlank` tells that the line before starts with a blank. -/
def blockLines (literal : Bool) (chomping : Chomping) (indent : Nat) :
    Nat → (first others : List Char) → (afterBlank : Bool) → Scan (List Char)
  | 0, _, _, _ => failure
  | fuel + 1, first, others, afterBlank => do
      if (← Scan.column) = indent ∧ !(← Scan.test List.isEmpty) then
        let startsBlank ← Scan.isNext isBlank
        let between :=
          if !literal && first == ['\n'] && !afterBlank && !startsBlank then Gap.fold first others
          else first ++ others
        let found ← Scan.takeWhile fun c => !isBreak c
        let ending ← Scan.lineBreak
        let (empty, _) ← emptyLines (some indent) (← Scan.fuel) 0
        (between ++ found ++ ·) <$> blockLines literal chomping indent fuel ending empty startsBlank
      else
        pure (match chomping with
          | .strip => []
          | .clip => first
          | .keep => first ++ others)

/-- A scalar after its mark, in a collection of the given indentation. -/
def blockScalar (literal : Bool) (around : Int) : Scan String := do
  Scan.skip 1
  let (chomping, increment) ← blockHeader
  Scan.lineEnd
  let given := increment.map fun n => around.toNat + n
  let (empty, deepest) ← emptyLines given (← Scan.fuel) 0
  let indent := given.getD (max deepest (max (around + 1).toNat 1))
  String.ofList <$> blockLines literal chomping indent (← Scan.fuel) [] empty false

end Gleaner.Yaml
