import Gleaner.Yaml.Gap

set_option autoImplicit false

/-! Scalars without quotes. -/
namespace Gleaner.Yaml

/-- The stretch up to a blank, a line end, or a character that ends a scalar. Inside brackets a colon
right before one of them, or before a question mark, is refused. -/
def plainStretch (inFlow : Bool) : List Char → Option (List Char)
  | [] => some []
  | c :: cs =>
      if isSpace c then some []
      else if inFlow && c == ':' && startsWith (fun d => d == '?' || isFlowIndicator d) cs then none
      else if (c == ':' && endsOr isSpace cs) || (inFlow && isFlowIndicator c) then some []
      else (plainStretch inFlow cs).map (c :: ·)

/-- The stretches of a scalar after a gap, and whether the scalar is left on a new line. -/
def plainRest (inFlow : Bool) (indent : Int) : Nat → Gap → Scan (List Char × Bool)
  | 0, _ => failure
  | fuel + 1, gap => do
      if (← atMark) || (← Scan.isNext (· == '#')) then pure ([], gap.isBroken)
      else
        match ← (fun c => some (plainStretch inFlow c.rest, c) : Scan (Option (List Char))) with
        | none => failure
        | some [] => pure ([], gap.isBroken)
        | some found => do
            Scan.skip found.length
            if ← Scan.isNext isSpace then
              let next ← Gap.read indent false
              if !inFlow && decide ((← Scan.column : Int) < indent) then
                pure (gap.text ++ found, next.isBroken)
              else
                let (rest, isBroken) ← plainRest inFlow indent fuel next
                pure (gap.text ++ found ++ rest, isBroken)
            else pure (gap.text ++ found, false)

/-- A scalar without quotes in a collection of the given indentation. -/
def plainScalar (inFlow : Bool) (indent : Int) : Scan (String × Bool) := do
  let (found, isBroken) ← plainRest inFlow (indent + 1) (← Scan.fuel) {}
  pure (String.ofList found, isBroken)

end Gleaner.Yaml
