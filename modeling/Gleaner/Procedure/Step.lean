import Gleaner.Assignment

set_option autoImplicit false

/-!
What a walk over procedures does, step by step, and what its steps write. The walk itself sees no
record: the record is what writing the visits, one after the other, makes of it.
-/
namespace Gleaner

/-- One step of a walk. -/
inductive Step where
  | warned (warning : Warning)
  /-- The procedure was matched; its assignments are due with these captures. -/
  | visited (procedure : Procedure) (captures : Captures)

namespace Step

/-- How a visit is written: a procedure may import images when the scrape as a whole does not. -/
def policyOf (policy : WritePolicy) (procedure : Procedure) : WritePolicy :=
  { policy with importing := policy.importing || procedure.importing }

/-- Writes one step, and tells what there is to warn of. -/
def write (policy : WritePolicy) (record : Record) : Step → Record × List Warning
  | .warned warning => (record, [warning])
  | .visited procedure captures =>
      Assignment.applyAll (policyOf policy procedure) captures procedure.assignments record

/-- Writes steps one after the other. -/
def writeAll (policy : WritePolicy) : List Step → Record → Record × List Warning
  | [], record => (record, [])
  | step :: steps, record =>
      let first := write policy record step
      let others := writeAll policy steps first.1
      (others.1, first.2 ++ others.2)

end Step

end Gleaner
