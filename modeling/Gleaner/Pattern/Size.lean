import Gleaner.Pattern.Expr

set_option autoImplicit false

/-! How much memory the program of a pattern takes, worked out before it is built. -/
namespace Gleaner.Pattern

/-- What one state takes, and what each way on of a choice or of a set takes besides. -/
structure StateSize where
  state : Nat
  way : Nat
  range : Nat

def stateSize : StateSize := ⟨32, 4, 8⟩

def setSize (s : CharSet) : Nat :=
  if s.isAscii then 2 * stateSize.state + stateSize.range * s.ranges.size
  else 2 * stateSize.state + (stateSize.state + stateSize.range) * s.ranges.size

mutual

def Expr.size : Expr → Nat
  | .empty => stateSize.state
  | .set s => setSize s
  | .look _ => stateSize.state
  | .repetition least most _ inner =>
      let piece := inner.size
      let choice := stateSize.state + 2 * stateSize.way
      match most with
      | none => max least 1 * piece + choice
      | some most => least * piece + (most - least) * (piece + choice) + stateSize.state
  | .capture _ inner => inner.size + 2 * stateSize.state
  | .concat items => Expr.sizeAll items
  | .alternation branches => Expr.sizeAll branches + 2 * stateSize.state

def Expr.sizeAll : List Expr → Nat
  | [] => 0
  | item :: items => item.size + Expr.sizeAll items

end

end Gleaner.Pattern
